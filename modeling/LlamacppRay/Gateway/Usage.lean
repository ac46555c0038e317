import LlamacppRay.Gateway.Administration

/-! The usage report: what it says of the rows of the request log, in whatever order they are read. -/

namespace LlamacppRay.Gateway
open LlamacppRay.Python

theorem byNode_eq (logs : List LogEntry) : byNode logs = countKeys (logs.filterMap LogEntry.node) := by
  rw [byNode, countKeys, List.foldl_filterMap]
  congr 1
  funext counts log
  cases log.node <;> rfl

theorem truncate_between {low high : Int} {value : ℚ} (least : (low : ℚ) ≤ value) (most : value ≤ high) :
    low ≤ truncate value ∧ truncate value ≤ high := by
  unfold truncate
  split
  · exact ⟨Int.le_floor.mpr least, by exact_mod_cast (Int.floor_le value).trans most⟩
  · exact ⟨by exact_mod_cast least.trans (Int.le_ceil value), Int.ceil_le.mpr most⟩

theorem sum_between {low high : Int} {values : List Int} (bounds : ∀ value ∈ values, low ≤ value ∧ value ≤ high) :
    low * values.length ≤ values.sum ∧ values.sum ≤ high * values.length := by
  induction values with
  | nil => simp
  | cons value rest ih =>
    obtain ⟨least, most⟩ := bounds value List.mem_cons_self
    obtain ⟨below, above⟩ := ih fun other member => bounds other (List.mem_cons_of_mem value member)
    rw [List.sum_cons, List.length_cons]
    push_cast
    constructor
    · linarith
    · linarith

/-- What the report says, apart from the order in which the nodes are listed. -/
structure Reports (logs : List LogEntry) (report : UsageReport) : Prop where
  total : report.totalRequests = logs.length
  successful : report.successfulRequests = logs.countP fun log => log.statusCode = 200
  parts : report.successfulRequests + report.errorRequests = report.totalRequests
  streaming : report.streamingRequests = logs.countP LogEntry.streaming
  promptTokens : report.totalPromptTokens = (logs.map LogEntry.promptTokens).sum
  completionTokens : report.totalCompletionTokens = (logs.map LogEntry.completionTokens).sum
  latency : ∀ low high : Int, |low| ≤ 2 ^ 53 → |high| ≤ 2 ^ 53 → logs ≠ [] →
    (∀ log ∈ logs, low ≤ log.latencyMs ∧ log.latencyMs ≤ high) → low ≤ report.avgLatencyMs ∧ report.avgLatencyMs ≤ high
  nodes : Counts (logs.filterMap LogEntry.node) report.byNode
  nodeSum : (report.byNode.map Prod.snd).sum = logs.countP fun log => log.node.isSome
  last : report.lastRequestAt = (logs.map LogEntry.createdAt).max?

theorem reports_usageOf (division : TrueDivision) (username : String) (logs : List LogEntry) :
    Reports logs (usageOf division username logs) := by
  by_cases some : logs = []
  · subst some
    refine ⟨rfl, rfl, rfl, rfl, rfl, rfl, fun _ _ _ _ other => absurd rfl other, counts_countKeys [], rfl, rfl⟩
  · have counted : (logs.filter fun log => log.statusCode = 200).length = logs.countP fun log => log.statusCode = 200 :=
      List.countP_eq_length_filter.symm
    have most := List.countP_le_length (p := fun log : LogEntry => log.statusCode = 200) (l := logs)
    rw [usageOf, if_neg some]
    refine ⟨rfl, counted, ?_, rfl, rfl, rfl, ?_, ?_, ?_, rfl⟩
    · dsimp only
      rw [counted]
      omega
    · intro low high fitsLow fitsHigh _ bounds
      have within : ∀ value ∈ logs.map LogEntry.latencyMs, low ≤ value ∧ value ≤ high := by
        intro value member
        obtain ⟨log, listed, rfl⟩ := List.mem_map.mp member
        exact bounds log listed
      obtain ⟨below, above⟩ := sum_between within
      rw [List.length_map] at below above
      have quotient := division.between low high _ logs.length (List.length_pos_of_ne_nil some) fitsLow fitsHigh below above
      exact truncate_between quotient.1 quotient.2
    · dsimp only
      rw [byNode_eq]
      exact counts_countKeys _
    · dsimp only
      rw [byNode_eq, sum_countKeys, List.length_filterMap_eq_countP]

def Tables.twoUsers : Tables where
  users :=
    [⟨6, "eva", "eva@corp.example", "drilling", true, false⟩, ⟨7, "ana", "ana@corp.example", "geology", true, false⟩]
  keys := []
  user_ids := by simp
  usernames := by simp
  emails := by simp
  key_ids := List.nodup_nil
  key_hashes := List.nodup_nil
  owned := by simp

end LlamacppRay.Gateway
