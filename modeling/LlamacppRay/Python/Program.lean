import Mathlib

/-! Programs with exceptions that leave a trace: what a coroutine emits, in order, and how it ends.
The statements `try`/`except` and `try`/`finally` come with the rules for reasoning about them. -/

namespace LlamacppRay.Python

structure Program (Emission Error : Type) (α : Type) where
  emissions : List Emission
  result : Except Error α

namespace Program
variable {Emission Error α β : Type}

instance : Monad (Program Emission Error) where
  pure a := ⟨[], .ok a⟩
  bind p next :=
    match p.result with
    | .ok a => ⟨p.emissions ++ (next a).emissions, (next a).result⟩
    | .error e => ⟨p.emissions, .error e⟩

def emit (emission : Emission) : Program Emission Error Unit := ⟨[emission], .ok ()⟩
def raise (error : Error) : Program Emission Error α := ⟨[], .error error⟩

def lift (result : Except Error α) : Program Emission Error α := ⟨[], result⟩

/-- `try` with `except` clauses; the handler gives nothing for an exception no clause names. -/
def catching (p : Program Emission Error α) (handler : Error → Option (Program Emission Error α)) :
    Program Emission Error α :=
  match p.result with
  | .ok _ => p
  | .error e =>
    match handler e with
    | some h => ⟨p.emissions ++ h.emissions, h.result⟩
    | none => p

/-- `try` with a `finally` clause, whose own exception takes the place of the result. -/
def ensuring (p : Program Emission Error α) (final : Except Error α → Program Emission Error Unit) :
    Program Emission Error α :=
  ⟨p.emissions ++ (final p.result).emissions,
    match (final p.result).result with
    | .ok _ => p.result
    | .error e => .error e⟩

@[simp] theorem pure_emissions (a : α) : (pure a : Program Emission Error α).emissions = [] := rfl
@[simp] theorem pure_result (a : α) : (pure a : Program Emission Error α).result = .ok a := rfl
@[simp] theorem emit_emissions (e : Emission) : (emit e : Program Emission Error Unit).emissions = [e] := rfl
@[simp] theorem emit_result (e : Emission) : (emit e : Program Emission Error Unit).result = .ok () := rfl
@[simp] theorem raise_emissions (e : Error) : (raise e : Program Emission Error α).emissions = [] := rfl
@[simp] theorem raise_result (e : Error) : (raise e : Program Emission Error α).result = .error e := rfl
@[simp] theorem lift_emissions (r : Except Error α) : (lift r : Program Emission Error α).emissions = [] := rfl
@[simp] theorem lift_result (r : Except Error α) : (lift r : Program Emission Error α).result = r := rfl

section Sequences
variable {next : α → Program Emission Error β} (emissions : List Emission)

@[simp] theorem mk_ok_bind (a : α) : (⟨emissions, .ok a⟩ : Program Emission Error α) >>= next =
    ⟨emissions ++ (next a).emissions, (next a).result⟩ := rfl
@[simp] theorem mk_error_bind (e : Error) :
    (⟨emissions, .error e⟩ : Program Emission Error α) >>= next = ⟨emissions, .error e⟩ := rfl
@[simp] theorem emit_bind (e : Emission) (next : Unit → Program Emission Error β) :
    emit e >>= next = ⟨e :: (next ()).emissions, (next ()).result⟩ := rfl
@[simp] theorem lift_ok_bind (a : α) :
    (lift (.ok a) : Program Emission Error α) >>= next = next a := rfl
@[simp] theorem lift_error_bind (e : Error) :
    (lift (.error e) : Program Emission Error α) >>= next = raise e := rfl
@[simp] theorem raise_bind (e : Error) :
    (raise e : Program Emission Error α) >>= next = raise e := rfl

end Sequences

section Bind
variable {p : Program Emission Error α} {next : α → Program Emission Error β} {a : α} {e : Error}

theorem bind_of_ok (ok : p.result = .ok a) :
    p >>= next = ⟨p.emissions ++ (next a).emissions, (next a).result⟩ := by
  change (match p.result with
    | .ok a => (⟨p.emissions ++ (next a).emissions, (next a).result⟩ : Program Emission Error β)
    | .error e => ⟨p.emissions, .error e⟩) = _
  rw [ok]

theorem bind_of_error (error : p.result = .error e) : p >>= next = ⟨p.emissions, .error e⟩ := by
  change (match p.result with
    | .ok a => (⟨p.emissions ++ (next a).emissions, (next a).result⟩ : Program Emission Error β)
    | .error e => ⟨p.emissions, .error e⟩) = _
  rw [error]

theorem bind_raise (p : Program Emission Error α) (e : Error) :
    ∃ e', (p >>= fun _ => (raise e : Program Emission Error β)) = ⟨p.emissions, .error e'⟩ := by
  cases result : p.result with
  | ok a =>
    rw [bind_of_ok result]
    exact ⟨e, by simp⟩
  | error e' =>
    rw [bind_of_error result]
    exact ⟨e', rfl⟩

end Bind

section Statements
variable {p : Program Emission Error α} {handler : Error → Option (Program Emission Error α)} {a : α} {e : Error}

theorem catching_of_ok (ok : p.result = .ok a) : p.catching handler = p := by
  rw [catching, ok]

theorem catching_of_caught {h : Program Emission Error α} (error : p.result = .error e)
    (caught : handler e = some h) : p.catching handler = ⟨p.emissions ++ h.emissions, h.result⟩ := by
  simp only [catching, error, caught]

theorem catching_of_passed (error : p.result = .error e) (passed : handler e = none) :
    p.catching handler = p := by
  simp only [catching, error, passed]

theorem ensuring_result_congr {q : Program Emission Error α} (final : Except Error α → Program Emission Error Unit)
    (same : p.result = q.result) : (p.ensuring final).result = (q.ensuring final).result := by
  simp only [ensuring, same]

end Statements

/-! ### What all emissions satisfy -/

def Emits (P : Emission → Prop) (p : Program Emission Error α) : Prop := ∀ e ∈ p.emissions, P e

section Emits
variable {P : Emission → Prop} {p : Program Emission Error α}

theorem Emits.mono {Q : Emission → Prop} (emits : p.Emits P) (weaker : ∀ e, P e → Q e) : p.Emits Q :=
  fun e among => weaker e (emits e among)

theorem Emits.pure (a : α) : Emits P (pure a : Program Emission Error α) := by simp [Emits]
theorem Emits.lift (r : Except Error α) : Emits P (lift r : Program Emission Error α) := by simp [Emits]
theorem Emits.raise (e : Error) : Emits P (raise e : Program Emission Error α) := by simp [Emits]

theorem Emits.emit {e : Emission} (holds : P e) : Emits P (emit e : Program Emission Error Unit) := by
  simpa [Emits] using holds

theorem Emits.bind {next : α → Program Emission Error β} (first : p.Emits P)
    (rest : ∀ a, p.result = .ok a → (next a).Emits P) : (p >>= next).Emits P := by
  cases result : p.result with
  | ok a =>
    rw [bind_of_ok result]
    exact List.forall_mem_append.mpr ⟨first, rest a result⟩
  | error e =>
    rw [bind_of_error result]
    exact first

theorem Emits.catching {handler : Error → Option (Program Emission Error α)} (body : p.Emits P)
    (handlers : ∀ e h, handler e = some h → h.Emits P) : (p.catching handler).Emits P := by
  cases result : p.result with
  | ok a =>
    rw [catching_of_ok result]
    exact body
  | error e =>
    cases caught : handler e with
    | none =>
      rw [catching_of_passed result caught]
      exact body
    | some h =>
      rw [catching_of_caught result caught]
      exact List.forall_mem_append.mpr ⟨body, handlers e h caught⟩

theorem Emits.ensuring {final : Except Error α → Program Emission Error Unit} (body : p.Emits P)
    (last : ∀ r, (final r).Emits P) : (p.ensuring final).Emits P :=
  List.forall_mem_append.mpr ⟨body, last p.result⟩

end Emits

/-! ### What a program returns -/

/-- Whatever the program returns satisfies the predicate; an exception is no return. -/
def Returns (Q : α → Prop) (p : Program Emission Error α) : Prop := ∀ a, p.result = .ok a → Q a

section Returns
variable {Q : α → Prop} {p : Program Emission Error α}

theorem Returns.pure {a : α} (holds : Q a) : Returns Q (pure a : Program Emission Error α) := by
  intro other same
  cases same
  exact holds

theorem Returns.raise (e : Error) : Returns Q (raise e : Program Emission Error α) :=
  fun _ same => by cases same

theorem Returns.bind {first : Program Emission Error β} {next : β → Program Emission Error α}
    (rest : ∀ b, first.result = .ok b → (next b).Returns Q) : (first >>= next).Returns Q := by
  intro a same
  cases result : first.result with
  | ok b =>
    rw [bind_of_ok result] at same
    exact rest b result a same
  | error e =>
    rw [bind_of_error result] at same
    cases same

theorem Returns.catching {handler : Error → Option (Program Emission Error α)} (body : p.Returns Q)
    (handlers : ∀ e h, handler e = some h → h.Returns Q) : (p.catching handler).Returns Q := by
  cases result : p.result with
  | ok a =>
    rw [catching_of_ok result]
    exact body
  | error e =>
    cases caught : handler e with
    | none =>
      rw [catching_of_passed result caught]
      exact body
    | some h =>
      rw [catching_of_caught result caught]
      exact handlers e h caught

end Returns

/-! ### What a program raises -/

def Raises (Q : Error → Prop) (p : Program Emission Error α) : Prop := ∀ e, p.result = .error e → Q e

section Raises
variable {Q : Error → Prop} {p : Program Emission Error α}

theorem Raises.pure (a : α) : Raises Q (pure a : Program Emission Error α) :=
  fun _ same => by cases same

theorem Raises.emit (e : Emission) : Raises Q (emit e : Program Emission Error Unit) :=
  fun _ same => by cases same

theorem Raises.raise {e : Error} (holds : Q e) : Raises Q (raise e : Program Emission Error α) := by
  intro other same
  cases same
  exact holds

theorem Raises.lift {r : Except Error α} (holds : ∀ e, r = .error e → Q e) :
    Raises Q (lift r : Program Emission Error α) := holds

theorem Raises.bind {first : Program Emission Error β} {next : β → Program Emission Error α}
    (before : first.Raises Q) (rest : ∀ b, first.result = .ok b → (next b).Raises Q) :
    (first >>= next).Raises Q := by
  intro e same
  cases result : first.result with
  | ok b =>
    rw [bind_of_ok result] at same
    exact rest b result e same
  | error e' =>
    rw [bind_of_error result] at same
    cases same
    exact before e result

theorem Raises.catching {handler : Error → Option (Program Emission Error α)}
    (passed : ∀ e, p.result = .error e → handler e = none → Q e)
    (handlers : ∀ e h, handler e = some h → h.Raises Q) : (p.catching handler).Raises Q := by
  intro e same
  cases result : p.result with
  | ok a =>
    rw [catching_of_ok result, result] at same
    cases same
  | error e' =>
    cases caught : handler e' with
    | none =>
      rw [catching_of_passed result caught, result] at same
      cases same
      exact passed e result caught
    | some h =>
      rw [catching_of_caught result caught] at same
      exact handlers e' h caught e same

end Raises

/-! ### Loops -/

def forEach (body : α → Program Emission Error β) : List α → Program Emission Error Unit
  | [] => pure ()
  | x :: rest => do
      let _ ← body x
      forEach body rest

section Loops
variable {body : α → Program Emission Error β} {x : α} {rest : List α} {b : β} {e : Error}

theorem forEach_cons_of_ok (ok : (body x).result = .ok b) :
    forEach body (x :: rest) = ⟨(body x).emissions ++ (forEach body rest).emissions, (forEach body rest).result⟩ :=
  bind_of_ok ok

theorem forEach_cons_of_error (error : (body x).result = .error e) :
    forEach body (x :: rest) = ⟨(body x).emissions, .error e⟩ :=
  bind_of_error error

theorem forEach_of_ok {xs : List α} (returns : ∀ x ∈ xs, ∃ b, (body x).result = .ok b) :
    forEach body xs = ⟨xs.flatMap fun x => (body x).emissions, .ok ()⟩ := by
  induction xs with
  | nil => rfl
  | cons x rest ih =>
    obtain ⟨b, ok⟩ := returns x List.mem_cons_self
    rw [forEach_cons_of_ok ok, ih fun y later => returns y (List.mem_cons_of_mem x later), List.flatMap_cons]

theorem forEach_of_error {front back : List α} (returns : ∀ y ∈ front, ∃ b, (body y).result = .ok b)
    (error : (body x).result = .error e) : forEach body (front ++ x :: back) =
      ⟨front.flatMap (fun y => (body y).emissions) ++ (body x).emissions, .error e⟩ := by
  induction front with
  | nil => exact forEach_cons_of_error error
  | cons y front ih =>
    obtain ⟨b, ok⟩ := returns y List.mem_cons_self
    rw [List.cons_append, forEach_cons_of_ok ok, ih fun z later => returns z (List.mem_cons_of_mem y later),
      List.flatMap_cons, List.append_assoc]

theorem forEach_returns_iff {xs : List α} :
    (forEach body xs).result = .ok () ↔ ∀ x ∈ xs, ∃ b, (body x).result = .ok b := by
  constructor
  · intro returned
    induction xs with
    | nil => exact List.forall_mem_nil _
    | cons x rest ih =>
      cases first : (body x).result with
      | ok b =>
        rw [forEach_cons_of_ok first] at returned
        exact List.forall_mem_cons.mpr ⟨⟨b, first⟩, ih returned⟩
      | error e =>
        rw [forEach_cons_of_error first] at returned
        cases returned
  · intro returns
    rw [forEach_of_ok returns]

end Loops

/-! ### Programs that look the same -/

/-- The programs end alike and show the same of what is visible. -/
def Alike (visible : Emission → Bool) (p q : Program Emission Error α) : Prop :=
  p.emissions.filter visible = q.emissions.filter visible ∧ p.result = q.result

section Alike
variable {visible : Emission → Bool} {p q : Program Emission Error α}

theorem Alike.refl (p : Program Emission Error α) : Alike visible p p := ⟨rfl, rfl⟩

theorem Alike.bind {next next' : α → Program Emission Error β} (first : Alike visible p q)
    (rest : ∀ a, p.result = .ok a → Alike visible (next a) (next' a)) :
    Alike visible (p >>= next) (q >>= next') := by
  cases result : p.result with
  | ok a =>
    rw [bind_of_ok result, bind_of_ok (first.2.symm.trans result)]
    refine ⟨?_, (rest a result).2⟩
    rw [List.filter_append, List.filter_append, first.1, (rest a result).1]
  | error e =>
    rw [bind_of_error result, bind_of_error (first.2.symm.trans result)]
    exact ⟨first.1, rfl⟩

theorem Alike.catching {handler handler' : Error → Option (Program Emission Error α)}
    (body : Alike visible p q)
    (handlers : ∀ e, Option.Rel (Alike visible) (handler e) (handler' e)) :
    Alike visible (p.catching handler) (q.catching handler') := by
  cases result : p.result with
  | ok a =>
    rw [catching_of_ok result, catching_of_ok (body.2.symm.trans result)]
    exact body
  | error e =>
    have agree := handlers e
    simp only [Program.catching, result, body.2.symm.trans result]
    generalize handler e = first, handler' e = second at agree
    cases agree with
    | none => exact body
    | some alike =>
      have emitted := body.1
      refine ⟨?_, alike.2⟩
      rw [List.filter_append, List.filter_append, emitted, alike.1]

theorem Alike.ensuring {final final' : Except Error α → Program Emission Error Unit}
    (body : Alike visible p q) (last : ∀ r, Alike visible (final r) (final' r)) :
    Alike visible (p.ensuring final) (q.ensuring final') := by
  refine ⟨?_, ?_⟩
  · change (p.emissions ++ (final p.result).emissions).filter visible = _
    rw [List.filter_append, body.1, (last p.result).1, body.2, ← List.filter_append]
    rfl
  · simp only [Program.ensuring, body.2, (last q.result).2]

end Alike

end Program
end LlamacppRay.Python
