import Mathlib.Order.MinMax
import Connect3DpKiosk.MachineState

/-! # The status classifier

    The server's `MachineStatus` is a `[Flags]` enum, and its
    `JsonStringEnumConverter` writes a combination as the flag names joined
    by `", "`, e.g. `"Printing, Paused"`. `parseMachineStatus` collapses
    such a string to one status by trying its keywords in a fixed order.

    The result is the most active flag present: the classifier of a joined
    string is the maximum of the classifiers of its flags, in the order

      `Unknown < Disconnected < Connecting < Idle < Canceled < Printed < Paused < Printing`,

    so the order of the flags does not matter. The proof rests on two facts.
    No keyword holds a comma or a blank, so a keyword occurs in the joined
    string exactly when it occurs in one flag (`strstr_joinFlags`); and the
    keyword table falls strictly in that order, so the first match of a
    disjunction is the larger of the two first matches (`firstMatch_or`).
-/

namespace Connect3DpKiosk

/-! ## The priority order -/

/-- How active a status is: the order in which `parseMachineStatus` prefers
    its keywords, with `Unknown` below every keyword. -/
def MachineStatus.priority : MachineStatus → Nat
  | .unknown => 0
  | .disconnected => 1
  | .connecting => 2
  | .idle => 3
  | .canceled => 4
  | .printed => 5
  | .paused => 6
  | .printing => 7

theorem MachineStatus.priority_injective : Function.Injective MachineStatus.priority := by
  intro a b h
  cases a <;> cases b <;> first | rfl | exact absurd h (by decide)

instance : LinearOrder MachineStatus :=
  LinearOrder.lift' MachineStatus.priority MachineStatus.priority_injective

/-! ## First match over a sorted table -/

/-- A first match is a status of the table, or `Unknown`. -/
theorem firstMatch_lt {found : List UInt8 → Bool} {st : MachineStatus} :
    ∀ {tbl : List (String × MachineStatus)}, MachineStatus.unknown < st →
      (∀ e ∈ tbl, e.2 < st) → firstMatch found tbl < st
  | [], hu, _ => hu
  | (kw, st') :: rest, hu, h => by
    unfold firstMatch
    split
    · exact h _ (List.mem_cons_self _ _)
    · exact firstMatch_lt hu fun e he => h e (List.mem_cons_of_mem _ he)

/-- Two searches that agree on the keywords of the table match alike. -/
theorem firstMatch_congr {f g : List UInt8 → Bool} :
    ∀ {tbl : List (String × MachineStatus)}, (∀ e ∈ tbl, f (lit e.1) = g (lit e.1)) →
      firstMatch f tbl = firstMatch g tbl
  | [], _ => rfl
  | (kw, st) :: rest, h => by
    simp only [firstMatch, h (kw, st) (List.mem_cons_self _ _),
      firstMatch_congr fun e he => h e (List.mem_cons_of_mem _ he)]

theorem firstMatch_false : ∀ tbl : List (String × MachineStatus), firstMatch (fun _ => false) tbl = .unknown
  | [] => rfl
  | _ :: rest => by simp [firstMatch, firstMatch_false rest]

/-- Over a table that falls strictly in priority, all above `Unknown`, the
    first match of a disjunction is the larger first match. -/
theorem firstMatch_or (f g : List UInt8 → Bool) :
    ∀ {tbl : List (String × MachineStatus)}, tbl.Pairwise (fun a b => b.2 < a.2) →
      (∀ e ∈ tbl, MachineStatus.unknown < e.2) →
      firstMatch (fun k => f k || g k) tbl = max (firstMatch f tbl) (firstMatch g tbl)
  | [], _, _ => (max_self _).symm
  | (kw, st) :: rest, hs, hu => by
    have hrest : ∀ found, firstMatch found rest ≤ st := fun found =>
      (firstMatch_lt (hu _ (List.mem_cons_self _ _)) fun _ he => List.rel_of_pairwise_cons hs he).le
    have ih := firstMatch_or f g (List.Pairwise.of_cons hs) fun e he => hu e (List.mem_cons_of_mem _ he)
    by_cases hf : f (lit kw) = true <;> by_cases hg : g (lit kw) = true <;>
      simp [firstMatch, hf, hg, hrest, ih]

/-- Over a table that falls strictly in priority, all above `Unknown`, the
    first match is the most active status whose keyword is found. -/
theorem firstMatch_eq_max (found : List UInt8 → Bool) :
    ∀ {tbl : List (String × MachineStatus)}, tbl.Pairwise (fun a b => b.2 < a.2) →
      (∀ e ∈ tbl, MachineStatus.unknown < e.2) →
      firstMatch found tbl = ((tbl.filter fun e => found (lit e.1)).map Prod.snd).foldr max .unknown
  | [], _, _ => rfl
  | (kw, st) :: rest, hs, hu => by
    have ih := firstMatch_eq_max found (List.Pairwise.of_cons hs) fun e he => hu e (List.mem_cons_of_mem _ he)
    by_cases hf : found (lit kw) = true
    · have hrest : firstMatch found rest ≤ st :=
        (firstMatch_lt (hu _ (List.mem_cons_self _ _)) fun _ he => List.rel_of_pairwise_cons hs he).le
      simp [firstMatch, hf, ← ih, hrest]
    · simp [firstMatch, hf, ih]

/-- The keyword table falls strictly in priority, all above `Unknown`. -/
theorem statusKeywords_sorted :
    statusKeywords.Pairwise (fun a b => b.2 < a.2) ∧ ∀ e ∈ statusKeywords, MachineStatus.unknown < e.2 := by
  decide

/-- No keyword is empty or holds a comma or a blank. -/
theorem statusKeywords_lit : ∀ e ∈ statusKeywords,
    lit e.1 ≠ [] ∧ (44 : UInt8) ∉ lit e.1 ∧ (32 : UInt8) ∉ lit e.1 := by
  decide

/-- An empty string holds no keyword: the `s[0] == '\0'` test changes nothing. -/
theorem parseMachineStatus_some (s : CStr) :
    parseMachineStatus (some s) = firstMatch (strstr s) statusKeywords := by
  simp only [parseMachineStatus]
  split
  · rw [firstMatch_congr (g := fun _ => false), firstMatch_false]
    intro e he
    simp [strstr, *, (statusKeywords_lit e he).1]
  · rfl

/-! ## Joined flags -/

/-- `t₁ ++ ", " ++ … ++ ", " ++ tₖ`: a set of flags as the server writes it. -/
def joinFlagBytes : List CStr → List UInt8
  | [] => []
  | [t] => t.bytes
  | t :: u :: ts => t.bytes ++ lit ", " ++ joinFlagBytes (u :: ts)

theorem nul_not_mem_joinFlagBytes : ∀ ts : List CStr, (0 : UInt8) ∉ joinFlagBytes ts
  | [] => List.not_mem_nil _
  | [t] => t.no_nul
  | t :: u :: ts => by
    simp only [joinFlagBytes, List.mem_append, not_or]
    exact ⟨⟨t.no_nul, by decide⟩, nul_not_mem_joinFlagBytes (u :: ts)⟩

/-- The joined flags, a C string again. -/
def joinFlags (ts : List CStr) : CStr := ⟨joinFlagBytes ts, nul_not_mem_joinFlagBytes ts⟩

section join
variable {n : List UInt8} (hn : n ≠ []) (hc : (44 : UInt8) ∉ n) (hb : (32 : UInt8) ∉ n)
include hn hc hb

/-- A needle with neither comma nor blank cannot reach over `", "`. -/
theorem infix_sep_iff (x y : List UInt8) : n <:+: x ++ lit ", " ++ y ↔ n <:+: x ∨ n <:+: y := by
  constructor
  · intro h
    rw [show x ++ lit ", " ++ y = x ++ 44 :: ([] ++ 32 :: y) from by simp [lit]; rfl] at h
    refine (infix_append_cons hc h).imp id fun h => ?_
    exact (infix_append_cons hb h).resolve_left fun h => hn (List.eq_nil_of_infix_nil h)
  · rintro (h | h)
    · exact h.trans ((List.prefix_append _ _).trans (List.prefix_append _ _)).isInfix
    · exact h.trans (List.suffix_append _ _).isInfix

/-- A keyword occurs in joined flags exactly when it occurs in one of them. -/
theorem strstr_joinFlags : ∀ ts : List CStr, strstr (joinFlags ts) n = ts.any (strstr · n)
  | [] => by simp [strstr, joinFlags, joinFlagBytes, hn]
  | [t] => by simp [joinFlags, joinFlagBytes]
  | t :: u :: ts => by
    rw [List.any_cons, ← strstr_joinFlags (u :: ts)]
    simp only [strstr, joinFlags, joinFlagBytes, infix_sep_iff hn hc hb, Bool.decide_or]

end join

/-- First matches over flags searched together combine by `max`. -/
theorem firstMatch_any (found : CStr → List UInt8 → Bool) :
    ∀ ts : List CStr, firstMatch (fun k => ts.any (found · k)) statusKeywords =
      (ts.map fun t => firstMatch (found t) statusKeywords).foldr max .unknown
  | [] => by simp [firstMatch_false]
  | t :: ts => by
    simp only [List.any_cons, List.map_cons, List.foldr_cons]
    rw [firstMatch_or _ _ statusKeywords_sorted.1 statusKeywords_sorted.2, firstMatch_any found ts]

/-- The classifier of joined flags is the most active flag's status. -/
theorem parseMachineStatus_joinFlags_eq_max (ts : List CStr) :
    parseMachineStatus (some (joinFlags ts)) =
      (ts.map fun t => parseMachineStatus (some t)).foldr max .unknown := by
  rw [parseMachineStatus_some, firstMatch_congr (g := fun k => ts.any (strstr · k)), firstMatch_any]
  · simp only [parseMachineStatus_some]
  · intro e he
    obtain ⟨hn, hc, hb⟩ := statusKeywords_lit e he
    exact strstr_joinFlags hn hc hb ts

/-- **Flags collapse to the most active.** For flags `t₁ … tₖ` without NUL,
    `parseMachineStatus(t₁ ++ ", " ++ … ++ tₖ)` is the maximum of the
    flags' statuses in the priority order, `Unknown` for no flag, and so
    does not depend on the order in which the flags are listed. -/
theorem parseMachineStatus_joinFlags (ts : List CStr) :
    parseMachineStatus (some (joinFlags ts)) =
      (ts.map fun t => parseMachineStatus (some t)).foldr max .unknown ∧
    ∀ ts' : List CStr, ts'.Perm ts →
      parseMachineStatus (some (joinFlags ts')) = parseMachineStatus (some (joinFlags ts)) := by
  refine ⟨parseMachineStatus_joinFlags_eq_max ts, fun ts' hp => ?_⟩
  rw [parseMachineStatus_joinFlags_eq_max, parseMachineStatus_joinFlags_eq_max]
  exact (hp.map _).foldr_eq' (fun x _ y _ z => max_left_comm y x z) _

example : parseMachineStatus (some ⟨lit "Printing, Paused", by decide⟩) = .printing := by decide

/-- **The classifier shows the most active status it finds.** For every C
    string `s`, `parseMachineStatus(s)` is the most active status whose
    keyword `strstr` finds in `s`, and `Unknown` when it finds none (an
    empty string included). In particular each keyword alone is read as its
    own status. -/
theorem parseMachineStatus_most_active (s : CStr) :
    parseMachineStatus (some s) =
        ((statusKeywords.filter fun e => strstr s (lit e.1)).map Prod.snd).foldr max .unknown ∧
      ∀ e ∈ statusKeywords, ∀ h : (0 : UInt8) ∉ lit e.1, parseMachineStatus (some ⟨lit e.1, h⟩) = e.2 := by
  refine ⟨?_, by decide⟩
  rw [parseMachineStatus_some, firstMatch_eq_max _ statusKeywords_sorted.1 statusKeywords_sorted.2]

end Connect3DpKiosk
