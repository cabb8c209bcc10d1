import OpsPilot.Api.Service
/-!
# Which incidents the memory learns from (`generate_incident_report`, `_run_investigation`)

The coroutine writes its report only once the incident is resolved; the route that publishes a report does not
look at the stage. Either report enters the memory when its text has been embedded, and the incident may have
changed until then. `only_verified` says under which conditions on the steps every document belongs to an
incident that was resolved when it was added, `post_unverified` and `embedded_unverified` that a step without
them leads to one that was not.
-/
namespace OpsPilot

namespace Investigation

variable {W : Type}

/-- A step of the coroutine other than the merge of another stage, or a failure. -/
def staysResolved (s : Investigation W) : Label W → Bool
  | .effect _ =>
    match s.effects with
    | .merge (.currentStage stage) :: _ => stage = .resolved
    | _ => true
  | .handle | .index (.error _) => false
  | _ => true

section
variable [Unicode] {policyEngine : RiskPolicyEngine} {s s' : Investigation W} {l : Label W}

theorem stage_stays (hst : s.step policyEngine l = some s') (hstays : s.staysResolved l = true)
    (hres : s.incident.currentStage = .resolved) : s'.incident.currentStage = .resolved := by
  cases move_of_step hst with
  | effect now e effects he =>
    cases e with
    | merge f =>
      cases f with
      | currentStage stage =>
        simp only [staysResolved, he, decide_eq_true_eq] at hstays
        exact hstays
      | _ => exact hres
    | publish eventType payload => exact hres
    | stageChange n => exact hres
  | exhausted hp hend =>
    rw [incident_conclude]
    exact hres
  | notIndexed exc hp he => cases hstays
  | handle exc hp he hr => cases hstays
  | accept sub incident resp hok =>
    obtain ⟨plan, action, hacc, -, -⟩ := IncidentState.submitApproval_ok hok
    show incident.currentStage = _
    rw [hacc.filed]
    exact hres
  | _ => exact hres

/-- A coroutine comes to the writing of its report only from a resolved incident. -/
theorem indexing_of_step (hst : s.step policyEngine l = some s') (hp : s'.phase = .indexing) :
    s.phase = .indexing ∨ s'.incident.currentStage = .resolved := by
  cases move_of_step hst with
  | effect now e effects he =>
    rw [phase_perform] at hp
    exact .inl hp
  | exhausted hrunning hend =>
    rw [incident_conclude]
    unfold conclude at hp
    split at hp
    · rename_i hres
      exact .inr hres
    · cases hp
  | start | indexed | notIndexed | handle => cases hp
  | _ => exact .inl hp

theorem kept_submitted {sub : Submission} (hst : s.step policyEngine (.submitApproval sub) = some s') :
    s'.phase = s.phase ∧ s'.incident.currentStage = s.incident.currentStage := by
  cases move_of_step hst with
  | accept sub incident resp hok =>
    obtain ⟨plan, action, hacc, -, -⟩ := IncidentState.submitApproval_ok hok
    refine ⟨rfl, ?_⟩
    show incident.currentStage = _
    rw [hacc.filed]
  | refuse sub => exact ⟨rfl, rfl⟩

theorem kept_announced {now : Time} (hst : s.step policyEngine (.announce now) = some s') :
    s'.phase = s.phase ∧ s'.incident.currentStage = s.incident.currentStage := by
  cases move_of_step hst with
  | announce now d unannounced hu => exact ⟨rfl, rfl⟩

end

end Investigation

namespace Service

variable {V W : Type}

/-! ## What the memory holds -/

/-- Every document of the memory is a lesson, under the id of its incident, and so will be every report that is
being embedded. -/
structure LessonInv (svc : Service V W) : Prop where
  documents : svc.memoryManager.vectorStore.documents = svc.lessons.map Prod.fst
  ids : ∀ lesson ∈ svc.lessons, ∃ hex, lesson.2.incidentId = "inc-" ++ hex ∧ lesson.1.id = "PM-" ++ lesson.2.incidentId
  named : ∀ inv ∈ svc.objects, ∃ hex, inv.incident.incidentId = "inc-" ++ hex
  reports : ∀ job ∈ svc.indexings, ∃ inv, svc.objects[job.object]? = some inv ∧
    job.report.incidentId = inv.incident.incidentId

/-- One document more, that of the incident as it is now. -/
theorem lessons_learn (svc : Service V W) {job : Indexing} {inv : Investigation W}
    (h : svc.objects[job.object]? = some inv) (embedding : V) :
    ∃ doc, doc.id = "PM-" ++ job.report.incidentId ∧
      (svc.learn job embedding).memoryManager.vectorStore.documents =
        svc.memoryManager.vectorStore.documents ++ [doc] ∧
      (svc.learn job embedding).lessons = svc.lessons ++ [(doc, inv.incident)] := by
  let pm := PostmortemGenerator.pmEntry job.report
  refine ⟨EpisodicMemoryManager.document pm (EpisodicMemoryManager.docText pm) embedding, rfl, rfl, ?_⟩
  simp [learn, h, PostmortemGenerator.autoIndexToMemory, EpisodicMemoryManager.addPostmortem,
    InMemoryVectorStore.addDocuments, pm]

theorem LessonInv.receive {svc : Service V W} (h : LessonInv svc) {n : Nat} {job : Indexing}
    (hn : svc.indexings[n]? = some job) (answer : Except PyException V) : LessonInv (svc.receive n job answer) := by
  obtain ⟨inv, hobj, hid⟩ := h.reports job (List.mem_of_getElem? hn)
  have hreports : ∀ other ∈ svc.indexings.eraseIdx n, ∃ inv, svc.objects[other.object]? = some inv ∧
      other.report.incidentId = inv.incident.incidentId :=
    fun other hmem => h.reports other (List.mem_of_mem_eraseIdx hmem)
  cases answer with
  | error exc => exact ⟨h.documents, h.ids, h.named, hreports⟩
  | ok embedding =>
    obtain ⟨doc, hdoc, hdocuments, hlessons⟩ :=
      lessons_learn { svc with indexings := svc.indexings.eraseIdx n } hobj embedding
    refine ⟨?_, ?_, h.named, hreports⟩
    · refine hdocuments.trans ?_
      rw [Service.receive, hlessons, List.map_append, ← h.documents]
      rfl
    · intro lesson hmem
      rw [Service.receive, hlessons] at hmem
      rcases List.mem_append.1 hmem with hold | hnew
      · exact h.ids lesson hold
      · obtain rfl := List.mem_singleton.1 hnew
        obtain ⟨hex, hname⟩ := h.named inv (List.mem_of_getElem? hobj)
        exact ⟨hex, hname, by rw [hdoc, hid]⟩

section
variable [UnicodeText] [Unicode] {policyEngine : RiskPolicyEngine} {svc svc' : Service V W} {label : Label V W}

theorem lessonInv_move (h : LessonInv svc) (hm : Move policyEngine svc label svc') : LessonInv svc' := by
  have hnamed : ∀ inv ∈ svc'.objects, ∃ hex, inv.incident.incidentId = "inc-" ++ hex := by
    refine forall_incident_move (P := fun st => ∃ hex, st.incidentId = "inc-" ++ hex) ?_ ?_ hm h.named
    · intro hex title severity affectedServices symptoms autoRemediate clock
      exact ⟨hex, rfl⟩
    · rintro s s' l hst ⟨hex, hname⟩
      exact ⟨hex, (Investigation.incidentId_step hst).trans hname⟩
  have hreports : ∀ job : Indexing, (∃ inv, svc.objects[job.object]? = some inv ∧
      job.report.incidentId = inv.incident.incidentId) →
      ∃ inv, svc'.objects[job.object]? = some inv ∧ job.report.incidentId = inv.incident.incidentId := by
    rintro job ⟨inv, hobj, hid⟩
    obtain ⟨inv', hobj', heq⟩ := incident_move (R := fun st st' => st'.incidentId = st.incidentId) (fun _ => rfl)
      (fun s s' l hst => Investigation.incidentId_step hst) hm hobj
    exact ⟨inv', hobj', hid.trans heq.symm⟩
  cases hm with
  | created hex title severity affectedServices symptoms autoRemediate clock executionRunner =>
    exact ⟨h.documents, h.ids, hnamed, fun job hmem => hreports job (h.reports job hmem)⟩
  | indexing i k now inv hi hp he hfirst =>
    refine ⟨h.documents, h.ids, hnamed, fun job hmem => ?_⟩
    rcases List.mem_append.1 hmem with hold | hnew
    · exact h.reports job hold
    · obtain rfl := List.mem_singleton.1 hnew
      obtain ⟨other, hother, hincident⟩ := incident_investigated hi
      exact ⟨other, hother, congrArg IncidentState.incidentId hincident⟩
  | indexed n i k job answer inv inv' hn ht hi hst =>
    have hreceive := h.receive hn answer
    refine ⟨hreceive.documents, hreceive.ids, hnamed, fun other hmem => hreports other ?_⟩
    have hother := hreceive.reports other hmem
    rwa [objects_receive] at hother
  | published n job answer hn ht => exact h.receive hn answer
  | posted incidentId now i inv hfind =>
    refine ⟨h.documents, h.ids, hnamed, fun job hmem => ?_⟩
    rcases List.mem_append.1 hmem with hold | hnew
    · exact h.reports job hold
    · obtain rfl := List.mem_singleton.1 hnew
      exact ⟨inv, find_some hfind, rfl⟩
  | _ => exact ⟨h.documents, h.ids, hnamed, fun job hmem => hreports job (h.reports job hmem)⟩

theorem lessonInv_run {as : List (Label V W)}
    (hrun : Machine.run (step policyEngine) ({} : Service V W) as = some svc) : LessonInv svc := by
  refine Machine.run_induction (P := fun _ svc => LessonInv svc) ⟨rfl, by simp, by simp, by simp⟩ ?_ as svc hrun
  intro as svc l svc' _ hI hst
  exact lessonInv_move hI (move_of_step hst)

end

/-! ## Whose reports are on their way -/

/-- A report of the `k`-th incident is being embedded, or a task other than `skip` is going to write one. -/
def awaits (svc : Service V W) (k : Nat) (skip : Option Nat) : Bool :=
  (svc.indexings.any fun job => job.object == k) ||
    svc.objects.zipIdx.any fun (own, i) => own.phase == .indexing && svc.found.get? i == some k && skip != some i

theorem awaits_iff {svc : Service V W} {k : Nat} {skip : Option Nat} :
    svc.awaits k skip = true ↔ (∃ job ∈ svc.indexings, job.object = k) ∨
      ∃ i own, svc.objects[i]? = some own ∧ own.phase = .indexing ∧ svc.found.get? i = some k ∧ skip ≠ some i := by
  simp only [awaits, Bool.or_eq_true, List.any_eq_true, beq_iff_eq, Bool.and_eq_true, bne_iff_ne, Prod.exists,
    List.mk_mem_zipIdx_iff_getElem?, and_assoc]
  refine or_congr_right ?_
  rw [exists_comm]

/-- A task that has not begun has not done anything. -/
structure TaskInv (svc : Service V W) : Prop where
  waiting : ∀ i own, svc.objects[i]? = some own → svc.found.get? i = none → own.phase = .opening
  begun : ∀ i k, svc.found.get? i = some k → i < svc.objects.length

/-- A task that is not at its beginning has found its incident. -/
theorem TaskInv.found {svc : Service V W} (h : TaskInv svc) {i k : Nat} {inv : Investigation W}
    (hi : svc.investigated i = some (k, inv)) (hp : inv.phase ≠ .opening) :
    svc.found.get? i = some k ∧ ∃ own, svc.objects[i]? = some own ∧ own.phase = inv.phase := by
  obtain ⟨own, other, hown, -, ⟨hfound, rfl⟩ | ⟨hfound, -, rfl⟩⟩ := investigated_cases hi
  · exact ⟨hfound, own, hown, rfl⟩
  · exact absurd (h.waiting i own hown hfound) hp

/-- A task that is going to write its report counts among those that are. -/
theorem TaskInv.awaits {svc : Service V W} (h : TaskInv svc) {i k : Nat} {inv : Investigation W}
    (hi : svc.investigated i = some (k, inv)) (hp : inv.phase = .indexing) : svc.awaits k none = true := by
  obtain ⟨hfound, own, hown, hphase⟩ := h.found hi (by rw [hp]; decide)
  exact awaits_iff.2 (.inr ⟨i, own, hown, hphase.trans hp, hfound, nofun⟩)

theorem TaskInv.store {svc : Service V W} (h : TaskInv svc) {i : Nat} {inv inv' : Investigation W}
    (hi : svc.objects[i]? = some inv) (hp : inv'.phase = inv.phase) : TaskInv (svc.store i inv') := by
  refine ⟨fun j own hj hfound => ?_, fun j k hfound => ?_⟩
  · rw [Service.store, List.getElem?_set] at hj
    split at hj
    · rename_i hij
      subst hij
      split at hj
      · cases hj
        exact hp.trans (h.waiting i inv hi hfound)
      · cases hj
    · exact h.waiting j own hj hfound
  · rw [Service.store, List.length_set]
    exact h.begun j k hfound

theorem TaskInv.resume {svc : Service V W} (h : TaskInv svc) {i k : Nat} {inv : Investigation W}
    (hi : svc.investigated i = some (k, inv)) (inv' : Investigation W) : TaskInv (svc.resume i k inv') := by
  have hfound' : ∀ j, (svc.resume i k inv').found.get? j = if i = j then some k else svc.found.get? j :=
    fun j => Dict.get?_set _ _ _ _
  refine ⟨fun j own hj hfound => ?_, fun j k' hfound => ?_⟩
  · rw [hfound'] at hfound
    split at hfound
    · cases hfound
    · rename_i hij
      rw [getElem?_resume] at hj
      obtain ⟨before, hbefore, rfl⟩ := Option.map_eq_some_iff.1 hj
      simp only [if_neg hij]
      exact h.waiting j before hbefore hfound
  · have hlen : (svc.resume i k inv').objects.length = svc.objects.length := by
      simp [Service.resume]
    rw [hlen]
    rw [hfound'] at hfound
    split at hfound
    · rename_i hij
      obtain ⟨own, -, hown, -⟩ := investigated_cases hi
      exact hij ▸ (List.getElem?_eq_some_iff.1 hown).1
    · exact h.begun j k' hfound

section
variable [UnicodeText] [Unicode] {policyEngine : RiskPolicyEngine} {svc svc' : Service V W} {label : Label V W}

theorem taskInv_move (h : TaskInv svc) (hm : Move policyEngine svc label svc') : TaskInv svc' := by
  cases hm with
  | created hex title severity affectedServices symptoms autoRemediate clock executionRunner =>
    refine ⟨fun i own hi hfound => ?_, fun i k hfound => ?_⟩
    · rw [create, List.getElem?_append] at hi
      split at hi
      · exact h.waiting i own hi hfound
      · obtain rfl := List.mem_singleton.1 (List.mem_of_getElem? hi)
        rfl
    · have hlt := h.begun i k hfound
      simp only [create, List.length_append]
      omega
  | worked i k l inv inv' hl hi hst => exact h.resume hi inv'
  | indexed n i k job answer inv inv' hn ht hi hst =>
    have hreceive : TaskInv (svc.receive n job answer) := by
      refine ⟨?_, ?_⟩
      · rw [objects_receive, found_receive]
        exact h.waiting
      · rw [objects_receive, found_receive]
        exact h.begun
    have hi' : (svc.receive n job answer).investigated i = some (k, inv) := by
      simp only [investigated, find, objects_receive, found_receive, table_receive]
      exact hi
    exact hreceive.resume hi' inv'
  | published n job answer hn ht =>
    refine ⟨?_, ?_⟩
    · rw [objects_receive, found_receive]
      exact h.waiting
    · rw [objects_receive, found_receive]
      exact h.begun
  | submitted incidentId sub i inv inv' hfind hst =>
    exact h.store (find_some hfind) (Investigation.kept_submitted hst).1
  | announced i now inv inv' hi hst => exact h.store hi (Investigation.kept_announced hst).1
  | _ => exact ⟨h.waiting, h.begun⟩

end

/-! ## Only what is resolved is learned -/

theorem awaits_of_skip {svc : Service V W} {k : Nat} {skip : Option Nat} (h : svc.awaits k skip = true) :
    svc.awaits k none = true := by
  rw [awaits_iff] at h ⊢
  refine h.imp_right ?_
  rintro ⟨i, own, hi, hp, hfound, -⟩
  exact ⟨i, own, hi, hp, hfound, nofun⟩

/-- After a step of the `i`-th task the same reports are on their way, and its own if it is at the end. -/
theorem awaits_resume {svc : Service V W} {i k j : Nat} {inv : Investigation W}
    (h : (svc.resume i k inv).awaits j none = true) :
    svc.awaits j (some i) = true ∨ inv.phase = .indexing ∧ k = j := by
  rw [awaits_iff] at h
  obtain hjob | ⟨i', own', hi', hp, hfound, -⟩ := h
  · exact .inl (awaits_iff.2 (.inl hjob))
  · rw [getElem?_resume] at hi'
    obtain ⟨own, hown, rfl⟩ := Option.map_eq_some_iff.1 hi'
    have hset : (if i = i' then some k else svc.found.get? i') = some j := (Dict.get?_set _ _ _ _).symm.trans hfound
    by_cases hii : i = i'
    · simp only [if_pos hii] at hp hset
      exact .inr ⟨hp, Option.some.inj hset⟩
    · simp only [if_neg hii] at hp hset
      exact .inl (awaits_iff.2 (.inr ⟨i', own, hown, hp, hset, fun heq => hii (Option.some.inj heq)⟩))

theorem isResolved_resume {svc : Service V W} {i k j : Nat} {inv : Investigation W} {other : Investigation W}
    (hother : svc.objects[k]? = some other) : (svc.resume i k inv).isResolved j = true ↔
      if k = j then inv.incident.currentStage = .resolved else svc.isResolved j = true := by
  rw [isResolved, getElem?_resume]
  by_cases hkj : k = j
  · subst hkj
    simp [hother]
  · cases hj : svc.objects[j]? <;> simp [isResolved, hj, hkj]

/-- Every document belongs to an incident that was resolved when it was added. -/
def OnlyVerified (svc : Service V W) : Prop :=
  ∀ lesson ∈ svc.lessons, lesson.2.currentStage = .resolved

/-- So it is, and so will it be: what is going to be indexed is resolved. -/
structure VerifiedInv (svc : Service V W) : Prop where
  lessons : OnlyVerified svc
  awaited : ∀ k, svc.awaits k none = true → svc.isResolved k = true

/-- Every report that is posted is about an incident that is resolved, and while a report of an incident is on
its way no coroutine takes the incident to another stage. -/
def KeepsVerified (svc : Service V W) : Label V W → Prop
  | .postReport incidentId _ => ∀ x ∈ svc.find incidentId, x.2.incident.currentStage = .resolved
  | .task i l => ∀ x ∈ svc.investigated i, svc.awaits x.1 none = true → x.2.staysResolved l = true
  | .embedded n answer =>
    ∀ job ∈ svc.indexings[n]?, ∀ i ∈ job.task, ∀ x ∈ svc.investigated i,
      awaits { svc with indexings := svc.indexings.eraseIdx n } x.1 (some i) = true →
        x.2.staysResolved (.index (answer.map fun _ => ())) = true
  | _ => True

/-- What a step of the `i`-th task has to keep. -/
theorem VerifiedInv.resume {svc : Service V W} {i k : Nat} {inv inv' : Investigation W} (hlessons : OnlyVerified svc)
    (hawaited : ∀ j, svc.awaits j (some i) = true → svc.isResolved j = true)
    (hi : svc.investigated i = some (k, inv))
    (hk : svc.awaits k (some i) = true ∨ inv'.phase = .indexing → inv'.incident.currentStage = .resolved) :
    VerifiedInv (svc.resume i k inv') := by
  obtain ⟨other, hother, -⟩ := incident_investigated hi
  refine ⟨hlessons, fun j hj => (isResolved_resume hother).2 ?_⟩
  have hcases := awaits_resume hj
  split
  · rename_i hkj
    subst hkj
    exact hk (hcases.imp_right And.left)
  · rename_i hkj
    rcases hcases with hbefore | ⟨-, heq⟩
    · exact hawaited j hbefore
    · exact absurd heq hkj

/-- The task works on an incident that is resolved. -/
theorem VerifiedInv.stage {svc : Service V W} (h : VerifiedInv svc) {i k : Nat} {inv : Investigation W}
    (hi : svc.investigated i = some (k, inv)) (hk : svc.awaits k none = true) :
    inv.incident.currentStage = .resolved := by
  obtain ⟨other, hother, hincident⟩ := incident_investigated hi
  rw [hincident]
  exact (isResolved_of_getElem? hother).1 (h.awaited k hk)

/-- The stage of an incident, and whose reports are on their way, when only its task or its decisions change. -/
theorem VerifiedInv.store {svc : Service V W} (h : VerifiedInv svc) {i : Nat} {inv inv' : Investigation W}
    (hi : svc.objects[i]? = some inv) (hp : inv'.phase = inv.phase)
    (hstage : inv'.incident.currentStage = inv.incident.currentStage) : VerifiedInv (svc.store i inv') := by
  have hlt := (List.getElem?_eq_some_iff.1 hi).1
  refine ⟨h.lessons, fun k hk => ?_⟩
  have hbefore : svc.awaits k none = true := by
    rw [awaits_iff] at hk ⊢
    refine hk.imp_right ?_
    rintro ⟨j, own, hj, hphase, hfound, hskip⟩
    rw [Service.store, List.getElem?_set, if_pos hlt] at hj
    split at hj
    · rename_i hij
      subst hij
      cases hj
      exact ⟨i, inv, hi, hp.symm.trans hphase, hfound, hskip⟩
    · exact ⟨j, own, hj, hphase, hfound, hskip⟩
  have hres := h.awaited k hbefore
  by_cases hik : i = k
  · subst hik
    have hnew : (svc.store i inv').objects[i]? = some inv' := by simp [Service.store, hlt]
    rw [isResolved_of_getElem? hi, ← hstage] at hres
    exact (isResolved_of_getElem? hnew).2 hres
  · rwa [isResolved, Service.store, List.getElem?_set, if_neg hik]

theorem onlyVerified_receive {svc : Service V W} (h : VerifiedInv svc) (hl : LessonInv svc) {n : Nat} {job : Indexing}
    (hn : svc.indexings[n]? = some job) (answer : Except PyException V) : OnlyVerified (svc.receive n job answer) := by
  cases answer with
  | error exc => exact h.lessons
  | ok embedding =>
    have hmem := List.mem_of_getElem? hn
    obtain ⟨inv, hobj, -⟩ := hl.reports job hmem
    obtain ⟨doc, -, -, hlessons⟩ :=
      lessons_learn { svc with indexings := svc.indexings.eraseIdx n } hobj embedding
    have hres := (isResolved_of_getElem? hobj).1 (h.awaited job.object (awaits_iff.2 (.inl ⟨job, hmem, rfl⟩)))
    intro lesson hlesson
    rw [receive, hlessons] at hlesson
    rcases List.mem_append.1 hlesson with hold | hnew
    · exact h.lessons lesson hold
    · obtain rfl := List.mem_singleton.1 hnew
      exact hres

/-- An answer takes a report away, and nothing else. -/
theorem awaits_receive {svc : Service V W} {n k : Nat} {job : Indexing} {answer : Except PyException V}
    {skip : Option Nat} : (svc.receive n job answer).awaits k skip =
      awaits { svc with indexings := svc.indexings.eraseIdx n } k skip := by
  simp only [awaits, objects_receive, found_receive, indexings_receive]

theorem awaits_eraseIdx {svc : Service V W} {n k : Nat} {skip : Option Nat}
    (h : awaits { svc with indexings := svc.indexings.eraseIdx n } k skip = true) :
    svc.awaits k skip = true := by
  rw [awaits_iff] at h ⊢
  refine h.imp_left ?_
  rintro ⟨job, hmem, hjob⟩
  exact ⟨job, List.mem_of_mem_eraseIdx hmem, hjob⟩

theorem VerifiedInv.propose {svc : Service V W} (h : VerifiedInv svc) {task : Option Nat} {k : Nat}
    {report : PostmortemReportResponse} (hk : svc.isResolved k = true) :
    VerifiedInv (svc.propose task k report) := by
  refine ⟨h.lessons, fun j hj => ?_⟩
  rcases awaits_iff.1 hj with ⟨job, hmem, rfl⟩ | htask
  · rcases List.mem_append.1 hmem with hold | hnew
    · exact h.awaited _ (awaits_iff.2 (.inl ⟨job, hold, rfl⟩))
    · obtain rfl := List.mem_singleton.1 hnew
      exact hk
  · exact h.awaited j (awaits_iff.2 (.inr htask))

/-- A task that has not begun waits for nothing. -/
theorem VerifiedInv.create {svc : Service V W} (h : VerifiedInv svc) (state : IncidentState)
    (executionRunner : Runner W) : VerifiedInv (svc.create state executionRunner) := by
  refine ⟨h.lessons, fun k hk => ?_⟩
  have hbefore : svc.awaits k none = true := by
    rw [awaits_iff] at hk ⊢
    refine hk.imp_right ?_
    rintro ⟨i, own, hi, hp, hfound, hskip⟩
    rw [Service.create, List.getElem?_append] at hi
    split at hi
    · exact ⟨i, own, hi, hp, hfound, hskip⟩
    · obtain rfl := List.mem_singleton.1 (List.mem_of_getElem? hi)
      cases hp
  have hres := h.awaited k hbefore
  obtain ⟨inv, hinv, -⟩ := Option.any_eq_true _ _ |>.1 hres
  rw [isResolved_of_getElem? hinv] at hres
  refine (isResolved_of_getElem? ?_).2 hres
  rw [Service.create, List.getElem?_append_left (List.getElem?_eq_some_iff.1 hinv).1, hinv]

section
variable [Unicode] {policyEngine : RiskPolicyEngine}

/-- A task that is going to write its report found the incident resolved, or finds it so in this step. -/
theorem awaits_of_step {svc : Service V W} {i k : Nat} {inv inv' : Investigation W} {l : Investigation.Label W}
    (h : TaskInv svc) (hi : svc.investigated i = some (k, inv)) (hst : inv.step policyEngine l = some inv')
    (hp : inv'.phase = .indexing) :
    svc.awaits k none = true ∨ inv'.incident.currentStage = .resolved := by
  rcases Investigation.indexing_of_step hst hp with hbefore | hres
  · exact .inl (h.awaits hi hbefore)
  · exact .inr hres

variable [UnicodeText] {svc svc' : Service V W} {label : Label V W}

theorem verifiedInv_move (h : VerifiedInv svc) (hl : LessonInv svc) (ht : TaskInv svc)
    (hkeeps : KeepsVerified svc label) (hm : Move policyEngine svc label svc') : VerifiedInv svc' := by
  cases hm with
  | created hex title severity affectedServices symptoms autoRemediate clock executionRunner => exact h.create _ _
  | worked i k l inv inv' hl' hi hst =>
    have hstep : svc.awaits k none = true → inv'.incident.currentStage = .resolved := fun hk =>
      Investigation.stage_stays hst (hkeeps (k, inv) hi hk) (h.stage hi hk)
    refine .resume h.lessons (fun j hj => h.awaited j (awaits_of_skip hj)) hi ?_
    rintro (hk | hp)
    · exact hstep (awaits_of_skip hk)
    · exact (awaits_of_step ht hi hst hp).elim hstep id
  | indexing i k now inv hi hp he hfirst => exact h.propose (h.awaited k (ht.awaits hi hp))
  | indexed n i k job answer inv inv' hn htask hi hst =>
    have hi' : (svc.receive n job answer).investigated i = some (k, inv) := by
      simp only [investigated, find, objects_receive, found_receive, table_receive]
      exact hi
    refine .resume (onlyVerified_receive h hl hn answer) (fun j hj => ?_) hi' ?_
    · rw [awaits_receive] at hj
      rw [isResolved, objects_receive]
      exact h.awaited j (awaits_of_skip (awaits_eraseIdx hj))
    · rintro (hk | hp)
      · rw [awaits_receive] at hk
        exact Investigation.stage_stays hst (hkeeps job hn i htask (k, inv) hi hk)
          (h.stage hi (awaits_of_skip (awaits_eraseIdx hk)))
      · cases hanswer : answer with
        | ok embedding =>
          rw [hanswer] at hst
          cases Investigation.move_of_step hst
          cases hp
        | error exc =>
          rw [hanswer] at hst
          cases Investigation.move_of_step hst
          cases hp
  | published n job answer hn htask =>
    refine ⟨onlyVerified_receive h hl hn answer, fun k hk => ?_⟩
    rw [awaits_receive] at hk
    rw [isResolved, objects_receive]
    exact h.awaited k (awaits_eraseIdx hk)
  | submitted incidentId sub i inv inv' hfind hst =>
    obtain ⟨hphase, hstage⟩ := Investigation.kept_submitted hst
    exact h.store (find_some hfind) hphase hstage
  | announced i now inv inv' hi hst =>
    obtain ⟨hphase, hstage⟩ := Investigation.kept_announced hst
    exact h.store hi hphase hstage
  | posted incidentId now i inv hfind =>
    exact h.propose ((isResolved_of_getElem? (find_some hfind)).2 (hkeeps (i, inv) hfind))
  | nothing label => exact h

/-- **Only verified lessons enter the memory** in every run in which reports are posted of resolved incidents
only, and no incident leaves that stage while a report of it is on its way. -/
theorem only_verified (as : List (Label V W)) (svc : Service V W)
    (hrun : Machine.run (step policyEngine) {} as = some svc)
    (hkeeps : Machine.Along (step policyEngine) KeepsVerified {} as) : OnlyVerified svc := by
  have hinv := Machine.run_induction_along
    (P := fun _ svc => VerifiedInv svc ∧ LessonInv svc ∧ TaskInv svc) ?_ ?_ as svc hrun hkeeps
  · exact hinv.1.lessons
  · refine ⟨⟨by simp [OnlyVerified], fun k hk => ?_⟩, ⟨rfl, by simp, by simp, by simp⟩, ⟨by simp, ?_⟩⟩
    · cases hk
    · intro i k hfound
      cases hfound
  · rintro as svc l svc' - ⟨h, hl, ht⟩ hC hst
    have hm := move_of_step hst
    exact ⟨verifiedInv_move h hl ht hC hm, lessonInv_move hl hm, taskInv_move ht hm⟩

/-! ## Where it goes wrong -/

/-- The condition cannot do without the stage at the answer: a report whose incident is not resolved any more
enters the memory when its text is embedded. -/
theorem embedded_unverified {n : Nat} {job : Indexing} {inv : Investigation W} (hn : svc.indexings[n]? = some job)
    (ht : job.task = none) (hobj : svc.objects[job.object]? = some inv) (hstage : inv.incident.currentStage ≠ .resolved)
    (embedding : V) :
    ∃ svc', svc.step policyEngine (.embedded n (.ok embedding)) = some svc' ∧ ¬ OnlyVerified svc' := by
  refine ⟨svc.receive n job (.ok embedding), by simp only [step, hn, ht], fun hverified => hstage ?_⟩
  obtain ⟨doc, -, -, hlessons⟩ :=
    lessons_learn { svc with indexings := svc.indexings.eraseIdx n } hobj embedding
  refine hverified (doc, inv.incident) ?_
  rw [receive, hlessons]
  exact List.mem_append_right _ List.mem_cons_self

/-- Nor without the stage at the request: a report of an incident that is not resolved enters the memory with the
next answer. -/
theorem post_unverified {incidentId : String} {i : Nat} {inv : Investigation W}
    (hfind : svc.find incidentId = some (i, inv)) (hstage : inv.incident.currentStage ≠ .resolved) (now : Time)
    (embedding : V) :
    ∃ svc', Machine.run (step policyEngine) svc
      [.postReport incidentId now, .embedded svc.indexings.length (.ok embedding)] = some svc' ∧
        ¬ OnlyVerified svc' := by
  let proposed := svc.propose none i (PostmortemGenerator.generateReport inv.incident now)
  have hanswer : ∃ svc', proposed.step policyEngine (.embedded svc.indexings.length (.ok embedding)) = some svc' ∧
      ¬ OnlyVerified svc' :=
    embedded_unverified List.getElem?_concat_length rfl (find_some hfind) hstage embedding
  obtain ⟨svc', hst, hverified⟩ := hanswer
  refine ⟨svc', ?_, hverified⟩
  have hpost : svc.step policyEngine (.postReport incidentId now) = some proposed := by
    simp only [step, generatePostmortemReport, hfind, proposed]
  rw [Machine.run_cons_of_step hpost, Machine.run_cons_of_step hst]
  rfl

end

instance (svc : Service V W) : Decidable (OnlyVerified svc) :=
  decidable_of_iff (svc.lessons.all (fun lesson => lesson.2.currentStage = .resolved) = true)
    (by simp [OnlyVerified])

instance (svc : Service V W) : DecidablePred (KeepsVerified svc)
  | .postReport incidentId _ =>
    inferInstanceAs (Decidable (∀ x ∈ svc.find incidentId, x.2.incident.currentStage = .resolved))
  | .task i l =>
    inferInstanceAs (Decidable (∀ x ∈ svc.investigated i, svc.awaits x.1 none = true → x.2.staysResolved l = true))
  | .embedded n answer =>
    inferInstanceAs (Decidable (∀ job ∈ svc.indexings[n]?, ∀ i ∈ job.task, ∀ x ∈ svc.investigated i,
      awaits { svc with indexings := svc.indexings.eraseIdx n } x.1 (some i) = true →
        x.2.staysResolved (.index (answer.map fun _ => ())) = true))
  | .createIncident .. | .index .. | .submitApproval .. | .announce .. | .getReport .. => isTrue trivial

/-- The report of a resolved incident is published once more. -/
theorem only_verified_resolved :
    letI := Py.asciiTable
    letI := Py.asciiText
    ∃ svc, Machine.run (step {}) {}
        (resolvePayment ++ [.postReport "inc-00000001" ⟨0⟩, .embedded 0 (.ok ())]) = some svc ∧
      svc.lessons.length = 2 ∧ OnlyVerified svc := by
  have hend : letI := Py.asciiTable
      letI := Py.asciiText
      (∃ svc, Machine.run (step {}) {}
        (resolvePayment ++ [.postReport "inc-00000001" ⟨0⟩, .embedded 0 (.ok ())]) = some svc ∧
        svc.lessons.length = 2) ∧
      Machine.Along (step {}) KeepsVerified {}
        (resolvePayment ++ [.postReport "inc-00000001" ⟨0⟩, .embedded 0 (.ok ())]) := by decide +kernel
  let _ := Py.asciiTable
  let _ := Py.asciiText
  obtain ⟨⟨svc, hrun, hlength⟩, hkeeps⟩ := hend
  exact ⟨svc, hrun, hlength, only_verified _ svc hrun hkeeps⟩

/-- The report of an incident that was just created enters the memory. -/
theorem lesson_unverified :
    letI := Py.asciiTable
    letI := Py.asciiText
    ∃ svc, Machine.run (step {}) {} [createPayment, .postReport "inc-00000001" ⟨0⟩, .embedded 0 (.ok ())] = some svc ∧
      ¬ OnlyVerified svc := by
  decide +kernel

end Service

end OpsPilot
