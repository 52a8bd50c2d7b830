import Connect3DpKiosk.Reconciler

/-! # Laws of the reconciler

    What one message does to `g_machineState`, for every snapshot, every
    delta and every prior state:

    * both operations keep `JobConsistent`, the record's invariant that no
      job means the empty job (`hasJob == false` implies `PrintJobState{}`);
    * a snapshot replaces everything but `wsConnected`, and the status when
      its `Status` is not a string;
    * a delta changes only what its flags name, ends the job on a null or
      empty `NameNew` when the release reads `CurrentJobChanges` (up to
      ArduinoJson 6.17), never touches the job from 6.18 on, and applied
      twice is applied once.

    Every law holds for both releases of ArduinoJson 6.
-/

namespace Connect3DpKiosk

/-! ## The job invariant -/

/-- `MachineState`'s invariant: without a job the job record is empty. -/
def JobConsistent (ms : MachineState) : Prop := ms.hasJob = false → ms.job = {}

section invariant
variable {lib : ArduinoJson} {ms : MachineState} (jc changes state : JsonObjectConst)

theorem JobConsistent.applyJobFields (h : JobConsistent ms) : JobConsistent (applyJobFields jc ms) := by
  intro hj
  rw [applyJobFields_hasJob] at hj
  simp [applyJobFields_job, hj, h hj]

theorem JobConsistent.applyJobChanges (h : JobConsistent ms) : JobConsistent (applyJobChanges jc ms) := by
  unfold Connect3DpKiosk.applyJobChanges
  split
  · exact h.applyJobFields jc
  · intro hj; simp at hj
  · exact fun _ => rfl

/-- A delta keeps the invariant. -/
theorem JobConsistent.applyAtAGlanceChanges (h : JobConsistent ms) :
    JobConsistent (applyAtAGlanceChanges lib changes ms) := by
  have h' : JobConsistent (applyStatusNickname changes ms) := h
  rw [applyAtAGlanceChanges_eq]
  split
  · exact h'.applyJobChanges _
  · exact h'

/-- A snapshot establishes the invariant, whatever the state before. -/
theorem jobConsistent_parseAtAGlanceState : JobConsistent (parseAtAGlanceState lib state ms) := by
  rw [parseAtAGlanceState_eq]
  split
  · exact fun h => absurd h (by simp)
  · exact fun _ => rfl

end invariant

/-! ## A snapshot replaces the state -/

/-- **Total replacement.** Two states given the same snapshot agree on
    everything it carries; each keeps its own `wsConnected`, and its own
    status when the snapshot's `Status` does not read as a string. -/
theorem parseAtAGlanceState_replaces (lib : ArduinoJson) (S : JsonObjectConst) (s₁ s₂ : MachineState) :
    (parseAtAGlanceState lib S s₁).nickname = (parseAtAGlanceState lib S s₂).nickname ∧
    (parseAtAGlanceState lib S s₁).hasJob = (parseAtAGlanceState lib S s₂).hasJob ∧
    (parseAtAGlanceState lib S s₁).job = (parseAtAGlanceState lib S s₂).job ∧
    (parseAtAGlanceState lib S s₁).wsConnected = s₁.wsConnected ∧
    (S["Status"].asString.isSome →
      (parseAtAGlanceState lib S s₁).status = (parseAtAGlanceState lib S s₂).status) ∧
    (S["Status"].asString = none → (parseAtAGlanceState lib S s₁).status = s₁.status) := by
  refine ⟨by simp, by simp, by simp [parseAtAGlanceState_job], by simp, fun h => ?_, fun h => ?_⟩
  · obtain ⟨t, ht⟩ := Option.isSome_iff_exists.1 h
    simp [statusFrom, ht]
  · simp [statusFrom, h]

/-- A snapshot without `Status` leaves two different statuses different. -/
theorem parseAtAGlanceState_keeps_status_without_Status :
    (parseAtAGlanceState .from6_18 ⟨[]⟩ { status := .idle }).status ≠
      (parseAtAGlanceState .from6_18 ⟨[]⟩ { status := .printing }).status := by
  decide

/-! ## A delta changes only what its flags name -/

/-- A flag of the delta's `CurrentJobChanges` is set: it is the JSON `true`. -/
def jobFlagSet (changes : JsonObjectConst) (flag : String) : Prop :=
  changes["CurrentJobChanges"][flag] = .bool true

/-- The job-end case of a delta, as release `lib` reads it: the release
    takes `CurrentJobChanges` for an object, `NameHasChanged` is set, and
    `NameNew` does not read as a non-empty string (it is absent, null, empty,
    or of another type, which `const char*` reads as null). -/
def JobEnds (lib : ArduinoJson) (changes : JsonObjectConst) : Prop :=
  changes["CurrentJobChanges"].isJsonObject lib = true ∧ jobFlagSet changes "NameHasChanged" ∧
    ∀ n, changes["CurrentJobChanges"]["NameNew"].asString = some n → n.bytes = []

/-- The flags `_applyAtAGlanceChanges` reads inside `CurrentJobChanges`. -/
def jobFlags : List String :=
  ["NameHasChanged", "PercentageCompleteHasChanged", "RemainingTimeHasChanged",
   "TotalTimeHasChanged", "SubStageHasChanged"]

/-- No flag the delta's code reads is set. -/
def NoFlagSet (changes : JsonObjectConst) : Prop :=
  changes["StatusHasChanged"] ≠ .bool true ∧ changes["NicknameHasChanged"] ≠ .bool true ∧
    ∀ flag ∈ jobFlags, ¬ jobFlagSet changes flag

section frame
variable {lib : ArduinoJson} {changes : JsonObjectConst} {ms : MachineState}

/-- The job-end case is the name block's `finish`, on what the release reads
    as an object. -/
theorem jobEnds_iff :
    JobEnds lib changes ↔ changes["CurrentJobChanges"].isJsonObject lib ∧
      nameChange changes["CurrentJobChanges"].asObject = .finish := by
  rw [nameChange_eq_finish_iff, JobEnds, jobFlagSet, JsonVariant.getElem_eq_asObject,
    JsonVariant.getElem_eq_asObject _ "NameNew"]

/-- A delta changed the job's presence or name only under `NameHasChanged`. -/
theorem nameHasChanged_of_job_changed
    (h : (applyAtAGlanceChanges lib changes ms).hasJob ≠ ms.hasJob ∨
      (applyAtAGlanceChanges lib changes ms).job.name ≠ ms.job.name) :
    jobFlagSet changes "NameHasChanged" := by
  rw [applyAtAGlanceChanges_eq] at h
  split at h
  · rw [jobFlagSet, JsonVariant.getElem_eq_asObject]
    apply nameHasChanged_of_nameChange_ne_keep
    intro hk
    simp only [applyJobChanges_hasJob, applyJobChanges_job, hk, applyStatusNickname_hasJob,
      applyStatusNickname_job, ne_eq, not_true_eq_false, false_or] at h
    split at h <;> simp_all
  · simp at h

/-- A job field the delta changed was flagged itself, or the job ended.
    `p` is the field: untouched by a new name, changed by
    `applyJobFieldChanges` only under `flag`. -/
theorem jobField_flagged {β : Type} (p : PrintJobState → β) (flag : String)
    (hp : ∀ jc job, p (applyJobFieldChanges jc job) ≠ p job → jc[flag] = .bool true)
    (hname : ∀ job name, p { job with name := name } = p job)
    (h : p (applyAtAGlanceChanges lib changes ms).job ≠ p ms.job) :
    jobFlagSet changes flag ∨ JobEnds lib changes := by
  rw [applyAtAGlanceChanges_eq] at h
  split at h
  · rename_i hobj
    rw [jobEnds_iff, jobFlagSet, JsonVariant.getElem_eq_asObject]
    rw [applyJobChanges_job] at h
    cases hn : nameChange changes["CurrentJobChanges"].asObject with
    | keep =>
      simp only [hn, applyStatusNickname_hasJob, applyStatusNickname_job] at h
      split at h
      · exact .inl (hp _ _ h)
      · exact absurd rfl h
    | start name =>
      simp only [hn, applyStatusNickname_job] at h
      exact .inl (hp _ _ fun e => h (e.trans (hname _ _)))
    | finish => exact .inr ⟨hobj, rfl⟩
  · exact absurd rfl h

/-- In the job-end case the job is cleared, whatever else the delta holds. -/
theorem applyAtAGlanceChanges_of_jobEnds (h : JobEnds lib changes) :
    (applyAtAGlanceChanges lib changes ms).hasJob = false ∧
      (applyAtAGlanceChanges lib changes ms).job = {} := by
  obtain ⟨hobj, hfin⟩ := jobEnds_iff.1 h
  rw [applyAtAGlanceChanges_eq, if_pos hobj, applyJobChanges_hasJob, applyJobChanges_job, hfin]
  exact ⟨rfl, rfl⟩

theorem status_flagged (h : (applyAtAGlanceChanges lib changes ms).status ≠ ms.status) :
    changes["StatusHasChanged"] = .bool true :=
  flag_of_whenFlagged_ne (by simpa using h)

theorem nickname_flagged (h : (applyAtAGlanceChanges lib changes ms).nickname ≠ ms.nickname) :
    changes["NicknameHasChanged"] = .bool true :=
  flag_of_whenFlagged_ne (by simpa using h)

/-- A delta with no flag set is a no-op. -/
theorem applyAtAGlanceChanges_of_noFlagSet (h : NoFlagSet changes) :
    applyAtAGlanceChanges lib changes ms = ms := by
  obtain ⟨hs, hn, hj⟩ := h
  have hname : ¬ jobFlagSet changes "NameHasChanged" := hj _ (by simp [jobFlags])
  have hfield : ∀ flag ∈ jobFlags, ¬ (jobFlagSet changes flag ∨ JobEnds lib changes) :=
    fun flag hf h => h.elim (hj flag hf) fun he => hname he.2.1
  have hjob : ¬ ((applyAtAGlanceChanges lib changes ms).hasJob ≠ ms.hasJob ∨
      (applyAtAGlanceChanges lib changes ms).job.name ≠ ms.job.name) :=
    fun h => hname (nameHasChanged_of_job_changed h)
  simp only [ne_eq, not_or, not_not] at hjob
  have field : ∀ {β : Type} (p : PrintJobState → β) (flag : String), flag ∈ jobFlags →
      (∀ jc job, p (applyJobFieldChanges jc job) ≠ p job → jc[flag] = .bool true) →
      (∀ job name, p { job with name := name } = p job) →
      p (applyAtAGlanceChanges lib changes ms).job = p ms.job :=
    fun p flag hf hp hname => not_not.1 fun h => hfield flag hf (jobField_flagged p flag hp hname h)
  refine MachineState.ext (by simp) (not_not.1 fun h => hs (status_flagged h))
    (not_not.1 fun h => hn (nickname_flagged h)) hjob.1 (PrintJobState.ext hjob.2 ?_ ?_ ?_ ?_)
  · exact field (·.percentageComplete) _ (by simp [jobFlags])
      (fun _ _ => applyJobFieldChanges_flagged.1) fun _ _ => rfl
  · exact field (·.remainingTime) _ (by simp [jobFlags])
      (fun _ _ => applyJobFieldChanges_flagged.2.1) fun _ _ => rfl
  · exact field (·.totalTime) _ (by simp [jobFlags])
      (fun _ _ => applyJobFieldChanges_flagged.2.2.1) fun _ _ => rfl
  · exact field (·.subStage) _ (by simp [jobFlags])
      (fun _ _ => applyJobFieldChanges_flagged.2.2.2) fun _ _ => rfl

/-- From 6.18 on a delta leaves the job alone. -/
theorem applyAtAGlanceChanges_from6_18_job :
    (applyAtAGlanceChanges .from6_18 changes ms).hasJob = ms.hasJob ∧
      (applyAtAGlanceChanges .from6_18 changes ms).job = ms.job := by
  simp

/-- Up to 6.17, a `NameNew` that is the number 42 ends the job, as a null
    one would: `const char*` reads it as null. -/
example : (applyAtAGlanceChanges .upTo6_17
    ⟨[("CurrentJobChanges", .object [("NameHasChanged", .bool true), ("NameNew", .int 42)])]⟩
    { hasJob := true, job := { name := lit "benchy", percentageComplete := 50 } }).hasJob = false := rfl

end frame

/-! ## A delta delivered twice -/

section idempotent
variable (changes jc : JsonObjectConst) (ms : MachineState)

theorem statusFrom_statusFrom (v : JsonVariant) (status : MachineStatus) :
    statusFrom v (statusFrom v status) = statusFrom v status := by
  unfold statusFrom; split <;> simp_all

theorem applyStatusNickname_idem :
    applyStatusNickname changes (applyStatusNickname changes ms) = applyStatusNickname changes ms := by
  simp only [applyStatusNickname, whenFlagged_idem (statusFrom_statusFrom _), whenFlagged_const_idem]

theorem applyJobFieldChanges_idem (job : PrintJobState) :
    applyJobFieldChanges jc (applyJobFieldChanges jc job) = applyJobFieldChanges jc job := by
  simp only [applyJobFieldChanges, whenFlagged_idem (JsonVariant.orInt_orInt _),
    whenFlagged_idem (cstrOr_cstrOr _), whenFlagged_const_idem]

/-- The job part neither reads nor writes status and nickname. -/
theorem applyStatusNickname_applyJobChanges :
    applyStatusNickname changes (applyJobChanges jc ms) =
      applyJobChanges jc (applyStatusNickname changes ms) := by
  ext1 <;> simp [applyJobChanges_hasJob, applyJobChanges_job]

theorem applyJobChanges_idem : applyJobChanges jc (applyJobChanges jc ms) = applyJobChanges jc ms := by
  ext1 <;> try simp only [applyJobChanges_wsConnected, applyJobChanges_status, applyJobChanges_nickname]
  · cases hn : nameChange jc <;> simp [applyJobChanges_hasJob, hn]
  · cases hn : nameChange jc with
    | keep => by_cases hj : ms.hasJob <;> simp [applyJobChanges_hasJob, applyJobChanges_job, hn, hj,
        applyJobFieldChanges_idem]
    | start name =>
      simp only [applyJobChanges_job, hn]
      exact applyJobFieldChanges_idem jc { ms.job with name := name }
    | finish => simp [applyJobChanges_job, hn]

end idempotent

/-- **Idempotence.** A delta delivered twice has the effect of one delivery. -/
theorem applyAtAGlanceChanges_idempotent (lib : ArduinoJson) (changes : JsonObjectConst) (s : MachineState) :
    applyAtAGlanceChanges lib changes (applyAtAGlanceChanges lib changes s) =
      applyAtAGlanceChanges lib changes s := by
  by_cases h : changes["CurrentJobChanges"].isJsonObject lib
  · simp only [applyAtAGlanceChanges_eq, h, if_true, applyStatusNickname_applyJobChanges,
      applyStatusNickname_idem, applyJobChanges_idem]
  · simp only [applyAtAGlanceChanges_eq, if_neg h, applyStatusNickname_idem]

end Connect3DpKiosk
