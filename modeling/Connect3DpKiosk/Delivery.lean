import Connect3DpKiosk.ServerSync

/-! # The snapshot among the deltas

    The server answers `machine/subscribe` with its state at the moment it
    reads the request, and broadcasts each change of its state as it
    happens, so the response and the broadcasts can pass each other on the
    way. A delta of a change the snapshot has not seen may be applied before
    it: the snapshot overwrites what the delta wrote. A delta of a change
    the snapshot already holds may be applied after it: it replays a change
    the kiosk already shows.

    Along such stale deltas, from a state `P` before the snapshot up to the
    snapshot's state `B`, each field of `g_machineState` shows either the
    state the deltas have reached or `B` (`ShowsEither`); when they reach `B`
    the two agree. So wherever the snapshot lands among the deltas,
    `_parseAtAGlanceState` and `_applyAtAGlanceChanges` end where a snapshot
    of the server's last state puts the kiosk, for both ArduinoJson
    releases: the invariant is kept on the views the release reads.
-/

namespace Connect3DpKiosk

/-! ## Section 1: One field, two candidate values

    A field that shows `a`'s value or `y` shows `b`'s value or `y` after the
    delta from `a` to `b`: a flagged field takes `b`'s value, an unflagged
    one already had it, and a null the code skips was null in `a` too. -/

section field

theorem statusFrom_either {p q : Option CStr} (s₀ : MachineStatus) {x y : MachineStatus} (hq : q.isSome)
    (hx : x = statusFrom (ofStringOrNull p) s₀ ∨ x = y) :
    (if p = q then x else statusFrom (ofStringOrNull q) x) = statusFrom (ofStringOrNull q) s₀ ∨
      (if p = q then x else statusFrom (ofStringOrNull q) x) = y := by
  split_ifs with h
  · rwa [← h]
  · obtain ⟨s, rfl⟩ := Option.isSome_iff_exists.1 hq
    simp

theorem cstrOr_either {p q : Option CStr} {x y : List UInt8} (hx : x = cstrOr p [] ∨ x = y)
    (hnull : q = none → p = none) :
    (if p = q then x else cstrOr q x) = cstrOr q [] ∨ (if p = q then x else cstrOr q x) = y := by
  split_ifs with h
  · rwa [← h]
  · cases q <;> simp_all

theorem cstrOr_const_either {p q : Option CStr} {x y : List UInt8} (hx : x = cstrOr p [] ∨ x = y) :
    (if p = q then x else cstrOr q []) = cstrOr q [] ∨ (if p = q then x else cstrOr q []) = y := by
  split_ifs with h
  · rwa [← h]
  · exact .inl rfl

theorem orInt_either {p q : Option Int} {x y : Int} (hx : x = (ofIntOrNull p).orInt 0 ∨ x = y)
    (hnull : (ofIntOrNull q).asInt? = none → (ofIntOrNull p).asInt? = none) :
    (if p = q then x else (ofIntOrNull q).orInt x) = (ofIntOrNull q).orInt 0 ∨
      (if p = q then x else (ofIntOrNull q).orInt x) = y := by
  split_ifs with h
  · rwa [← h]
  · cases hq : (ofIntOrNull q).asInt? <;> simp_all [JsonVariant.orInt]

end field

/-! ## Section 2: The invariant of a stale replay -/

/-- The four job fields after the name each show `a`'s job or `k`'s. -/
structure FieldsEither (a k : AtAGlanceView) (job : PrintJobState) : Prop where
  percentageComplete : job.percentageComplete = a.shownJob.percentageComplete ∨
    job.percentageComplete = k.shownJob.percentageComplete
  remainingTime : job.remainingTime = a.shownJob.remainingTime ∨ job.remainingTime = k.shownJob.remainingTime
  totalTime : job.totalTime = a.shownJob.totalTime ∨ job.totalTime = k.shownJob.totalTime
  subStage : job.subStage = a.shownJob.subStage ∨ job.subStage = k.shownJob.subStage

/-- The job half of `g_machineState` shows `a` or `k` field by field, and
    keeps the invariant that no job is the empty job. -/
structure JobEither (a k : AtAGlanceView) (ms : MachineState) : Prop where
  hasJob : ms.hasJob = a.job.isSome ∨ ms.hasJob = k.job.isSome
  name : ms.job.name = a.shownJob.name ∨ ms.job.name = k.shownJob.name
  fields : FieldsEither a k ms.job
  consistent : JobConsistent ms

/-- Each field of `m` shows `a` or `k`, on a kiosk with `st`'s link. -/
structure ShowsEither (a k : AtAGlanceView) (st m : MachineState) : Prop where
  wsConnected : m.wsConnected = st.wsConnected
  status : m.status = (a.shownOn st).status ∨ m.status = (k.shownOn st).status
  nickname : m.nickname = (a.shownOn st).nickname ∨ m.nickname = (k.shownOn st).nickname
  job : JobEither a k m

section either
variable {a b k : AtAGlanceView}

theorem FieldsEither.of_eq_left {job : PrintJobState} (h : job = a.shownJob) : FieldsEither a k job :=
  ⟨.inl (h ▸ rfl), .inl (h ▸ rfl), .inl (h ▸ rfl), .inl (h ▸ rfl)⟩

theorem FieldsEither.of_eq_right {job : PrintJobState} (h : job = k.shownJob) : FieldsEither a k job :=
  ⟨.inr (h ▸ rfl), .inr (h ▸ rfl), .inr (h ▸ rfl), .inr (h ▸ rfl)⟩

/-- Where a delta that keeps values skips a null, `a` had nothing readable
    either, unless the delta ends `a`'s job. -/
theorem KeepsValues.null (hk : KeepsValues a b) (hj : a.job.isSome → b.job.isSome) :
    ((ofIntOrNull b.percentageComplete).asInt? = none → (ofIntOrNull a.percentageComplete).asInt? = none) ∧
      (b.remainingTime = none → a.remainingTime = none) ∧ (b.totalTime = none → a.totalTime = none) := by
  rcases ha : a.job with _ | j
  · simp [AtAGlanceView.percentageComplete, AtAGlanceView.remainingTime, AtAGlanceView.totalTime,
      JsonVariant.asInt?, ha]
  · exact hk (by simp [ha]) (hj (by simp [ha]))

/-- The job fields say nothing of the name. -/
theorem FieldsEither.withName {job : PrintJobState} (h : FieldsEither a k job) (name : List UInt8) :
    FieldsEither a k { job with name := name } :=
  ⟨h.1, h.2, h.3, h.4⟩

/-- The status and nickname blocks leave the job half alone. -/
theorem JobEither.applyStatusNickname {ms : MachineState} (h : JobEither a k ms) (changes : JsonObjectConst) :
    JobEither a k (Connect3DpKiosk.applyStatusNickname changes ms) :=
  ⟨h.1, h.2, h.3, h.4⟩

theorem FieldsEither.applyJobFieldChanges {job : PrintJobState} (h : FieldsEither a k job)
    (hk : KeepsValues a b) (hj : a.job.isSome → b.job.isSome) :
    FieldsEither b k (applyJobFieldChanges (jobDiff a b) job) := by
  obtain ⟨hp, hr, ht⟩ := hk.null hj
  rw [applyJobFieldChanges_jobDiff]
  exact ⟨orInt_either h.1 hp, cstrOr_either h.2 hr, cstrOr_either h.3 ht, cstrOr_const_either h.4⟩

/-- The `CurrentJobChanges` part of a delta that keeps values. -/
theorem JobEither.applyJobChanges {ms : MachineState} (h : JobEither a k ms) (hk : KeepsValues a b) :
    JobEither b k (applyJobChanges (jobDiff a b) ms) := by
  have hc := h.consistent.applyJobChanges (jobDiff a b)
  rw [applyJobChanges_jobDiff] at hc ⊢
  by_cases hn : a.name = b.name
  · have hab := AtAGlanceView.isSome_job_of_name hn
    have hh : ms.hasJob = b.job.isSome ∨ ms.hasJob = k.job.isSome := by rw [← hab]; exact h.hasJob
    have hx : ms.job.name = b.shownJob.name ∨ ms.job.name = k.shownJob.name := by
      simpa [AtAGlanceView.shownJob, hn] using h.name
    rw [if_pos hn] at hc ⊢
    cases hm : ms.hasJob
    · have hf : FieldsEither b k ms.job := by
        rw [h.consistent hm]
        rcases h.hasJob with hj | hj
        · exact .of_eq_left (AtAGlanceView.shownJob_of_job_none (by simpa [hab, hm] using hj.symm)).symm
        · exact .of_eq_right (AtAGlanceView.shownJob_of_job_none (by simpa [hm] using hj.symm)).symm
      simp only [applyJobFields, hm, Bool.false_eq_true, ↓reduceIte] at hc ⊢
      exact ⟨hh, hx, hf, hc⟩
    · simp only [applyJobFields, hm, ↓reduceIte] at hc hh ⊢
      exact ⟨hh, hx, h.fields.applyJobFieldChanges hk fun h' => hab ▸ h', hc⟩
  · rw [if_neg hn] at hc ⊢
    rcases hb : b.job with _ | j <;> simp only [hb] at hc ⊢
    · exact ⟨.inl (by simp [hb]), .inl (by simp [AtAGlanceView.shownJob_of_job_none hb]),
        .of_eq_left (AtAGlanceView.shownJob_of_job_none hb).symm, hc⟩
    · refine ⟨.inl (by simp [applyJobFields, hb]), .inl ?_, ?_, hc⟩
      · simp [applyJobFields, AtAGlanceView.shownJob, AtAGlanceView.name, hb]
      · simpa only [applyJobFields, MachineState.startJob_hasJob, ↓reduceIte] using
          (h.fields.withName j.name.bytes).applyJobFieldChanges hk fun _ => by simp [hb]

/-- The delta's blocks between `a` and `b`, to a state with a status, that
    keep values keep the kiosk showing, field by field, `b` or `k`. -/
theorem ShowsEither.applyDiff {st m : MachineState} (h : ShowsEither a k st m)
    (hs : b.status.isSome) (hk : KeepsValues a b) :
    ShowsEither b k st
      (Connect3DpKiosk.applyJobChanges (jobDiff a b) (applyStatusNickname (diff a b) m)) := by
  refine ⟨by simpa using h.wsConnected, ?_, ?_, (h.job.applyStatusNickname _).applyJobChanges hk⟩
  · simp only [applyJobChanges_status, applyStatusNickname_diff]
    exact statusFrom_either st.status hs h.status
  · simp only [applyJobChanges_nickname, applyStatusNickname_diff]
    exact cstrOr_const_either h.nickname

/-- A kiosk showing `k` shows `a` or `k` for every `a`. -/
theorem ShowsEither.shownOn (a k : AtAGlanceView) (st : MachineState) : ShowsEither a k st (k.shownOn st) :=
  ⟨rfl, .inr rfl, .inr rfl, ⟨.inr rfl, .inr rfl, .of_eq_right rfl,
    fun h => AtAGlanceView.shownJob_of_job_none (by simpa [AtAGlanceView.shownOn] using h)⟩⟩

/-- Showing `k` or `k` is showing `k`. -/
theorem ShowsEither.eq_shownOn {st m : MachineState} (h : ShowsEither k k st m) : m = k.shownOn st := by
  have hf := h.job.fields
  apply MachineState.ext
  · exact h.wsConnected
  · exact h.status.elim id id
  · exact h.nickname.elim id id
  · exact h.job.hasJob.elim id id
  · exact PrintJobState.ext (h.job.name.elim id id) (hf.1.elim id id) (hf.2.elim id id)
      (hf.3.elim id id) (hf.4.elim id id)

end either

/-- **Step.** A delta to a state with a status, that keeps values as the
    release reads them, keeps the kiosk showing, field by field, what the
    release reads of the state it reaches, or `k`. -/
theorem ShowsEither.applyAtAGlanceChanges {lib : ArduinoJson} {a b k : AtAGlanceView} {st m : MachineState}
    (h : ShowsEither (a.readBy lib) k st m) (hs : b.status.isSome)
    (hk : KeepsValues (a.readBy lib) (b.readBy lib)) :
    ShowsEither (b.readBy lib) k st (Connect3DpKiosk.applyAtAGlanceChanges lib (diff a b) m) := by
  rw [applyAtAGlanceChanges_diff]
  exact h.applyDiff (by simpa using hs) hk

/-! ## Section 3: Runs of stale deltas -/

section runs
variable (lib : ArduinoJson) {k : AtAGlanceView} {st : MachineState}

theorem ShowsEither.applyDeltas (A : JsonObjectConst) (As : List JsonObjectConst)
    (hs : ∀ B ∈ As, (viewOf B).status.isSome)
    (hk : (A :: As).Chain' fun A B => KeepsValues ((viewOf A).readBy lib) ((viewOf B).readBy lib))
    {m : MachineState} (h : ShowsEither ((viewOf A).readBy lib) k st m) :
    ShowsEither ((viewOf (As.getLast?.getD A)).readBy lib) k st (Connect3DpKiosk.applyDeltas lib A As m) := by
  induction As generalizing A m with
  | nil => exact h
  | cons B As ih =>
    rw [List.chain'_cons] at hk
    simpa [Connect3DpKiosk.applyDeltas, List.getLast?_cons] using
      ih B (fun C hC => hs C (List.mem_cons_of_mem _ hC)) hk.2
        (h.applyAtAGlanceChanges (hs B (List.mem_cons_self _ _)) hk.1)

end runs

theorem applyDeltas_append (lib : ArduinoJson) (P : JsonObjectConst) (ys zs : List JsonObjectConst)
    (m : MachineState) :
    applyDeltas lib P (ys ++ zs) m = applyDeltas lib (ys.getLast?.getD P) zs (applyDeltas lib P ys m) := by
  induction ys generalizing P m with
  | nil => rfl
  | cons y ys ih => simp [applyDeltas, ih, List.getLast?_cons]

theorem getLast?_getD_append {α : Type} (P : α) (ys zs : List α) :
    (ys ++ zs).getLast?.getD P = zs.getLast?.getD (ys.getLast?.getD P) := by
  cases h : zs.getLast? <;> simp [List.getLast?_append, h]

theorem chain'_cons_append {α : Type} {R : α → α → Prop} {P : α} {ys zs : List α}
    (h : (P :: (ys ++ zs)).Chain' R) : (P :: ys).Chain' R ∧ (ys.getLast?.getD P :: zs).Chain' R := by
  rw [← List.cons_append, List.chain'_append] at h
  obtain ⟨h₁, h₂, h₃⟩ := h
  exact ⟨h₁, h₂.cons' fun y hy => h₃ _ (by simp [List.getLast?_cons]) y hy⟩

/-- **Stale deltas replay harmlessly.** After a snapshot of `B`, the deltas
    from any earlier state `P` up to `B` leave the kiosk showing `B`, when
    no step takes a value the release reads of a running job to null. -/
theorem applyDeltas_stale (lib : ArduinoJson) (P : JsonObjectConst) (ys : List JsonObjectConst)
    (hwf : ∀ A ∈ P :: ys, WellFormedState A)
    (hk : (P :: ys).Chain' fun A B => KeepsValues ((viewOf A).readBy lib) ((viewOf B).readBy lib))
    (st : MachineState) :
    applyDeltas lib P ys (parseAtAGlanceState lib (ys.getLast?.getD P) st) =
      parseAtAGlanceState lib (ys.getLast?.getD P) st := by
  have hs : ∀ B ∈ ys, (viewOf B).status.isSome := fun B hB => (hwf B (List.mem_cons_of_mem _ hB)).1
  rw [parseAtAGlanceState_of_wellFormed (hwf _ (getLast?_getD_mem P ys))]
  exact ((ShowsEither.shownOn _ _ st).applyDeltas lib P ys hs hk).eq_shownOn

end Connect3DpKiosk

