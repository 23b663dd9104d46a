import GvmGateway.Rest.Tasks

/-!
# Task requests: what is accepted

The documented shape of a request that creates a task, and that validation accepts these
requests and no others.
-/

namespace GvmGateway.Rest

/-! ## Identifiers -/

section Identifiers

variable {validUuid : String → Bool}

/-- An identifier passes when it is a UUID. -/
theorem validateUuid_eq_ok {field value : String} :
    validateUuid validUuid field value = .ok () ↔ validUuid value = true := by
  unfold validateUuid
  split <;> simp [*]

theorem validateOptionalUuid_eq_ok {field : String} {value : Option String} :
    validateOptionalUuid validUuid field value = .ok () ↔
      ∀ id ∈ value, validUuid id = true := by
  cases value with
  | none => simp [validateOptionalUuid]
  | some id => simp [validateOptionalUuid, validateUuid_eq_ok]

/-- The optional identifier is given, and valid. -/
structure HasId (validUuid : String → Bool) (value : Option String) (id : String) : Prop where
  given : value = some id
  valid : validUuid id = true

theorem requiredUuid_eq_ok {field id : String} {value : Option String} :
    requiredUuid validUuid field value = .ok id ↔ HasId validUuid value id := by
  cases value with
  | none =>
    constructor
    · intro h
      exact nomatch h
    · intro h
      exact nomatch h.given
  | some v =>
    constructor
    · intro h
      obtain ⟨_, hv, h⟩ := bind_eq_ok.mp h
      obtain rfl : v = id := Except.ok.inj h
      exact ⟨rfl, validateUuid_eq_ok.mp hv⟩
    · intro h
      obtain rfl : v = id := Option.some.inj h.given
      exact bind_eq_ok.mpr ⟨(), validateUuid_eq_ok.mpr h.valid, rfl⟩

/-- Alerts pass when each of them is a UUID. -/
theorem validateAlertIds_eq_ok {index : ℕ} {alertIds : List String} :
    validateAlertIds validUuid index alertIds = .ok () ↔
      ∀ id ∈ alertIds, validUuid id = true := by
  induction alertIds generalizing index with
  | nil => simp [validateAlertIds]
  | cons id rest ih =>
    rw [validateAlertIds, bind_eq_ok, List.forall_mem_cons]
    constructor
    · rintro ⟨_, hid, hrest⟩
      exact ⟨validateUuid_eq_ok.mp hid, ih.mp hrest⟩
    · rintro ⟨hid, hrest⟩
      exact ⟨(), validateUuid_eq_ok.mpr hid, ih.mpr hrest⟩

end Identifiers

/-! ## The documented requests -/

/-- The variants of a task that scans. -/
inductive ScanTaskType where
  | classic
  | agentGroup
  | ociImage
  | webApplication
deriving DecidableEq, Repr

instance : Fintype ScanTaskType where
  elems := {.classic, .agentGroup, .ociImage, .webApplication}
  complete kind := by cases kind <;> decide

/-- The text that selects the type. -/
def ScanTaskType.name : ScanTaskType → String
  | .classic => "classic"
  | .agentGroup => "agentGroup"
  | .ociImage => "ociImage"
  | .webApplication => "webApplication"

namespace CreateTaskRequest

section Documented

variable (validUuid : String → Bool) (request : CreateTaskRequest)

/-- The target selector of a variant. -/
def selector : ScanTaskType → Option String
  | .classic => request.targetId
  | .agentGroup => request.agentGroupId
  | .ociImage => request.ociImageTargetId
  | .webApplication => request.webApplicationTargetId

/-- Exactly one selector is present, and an explicit type is the one that it implies. -/
structure Selects (kind : ScanTaskType) (id : String) : Prop where
  given : request.selector kind = some id
  alone : ∀ other, other ≠ kind → request.selector other = none
  taskType : ∀ explicit ∈ request.taskType, explicit = kind.name

/-- A request for a scan of another variant than the classic one. -/
structure Scans (kind : ScanTaskType) (id scannerId : String) : Prop where
  selects : request.Selects kind id
  target : validUuid id = true
  scanner : HasId validUuid request.scannerId scannerId
  scanConfig : request.scanConfigId = none
  hostsOrdering : request.hostsOrdering = none

/-- A request that carries nothing but the type `import`, a name and a comment. -/
structure Imports : Prop where
  selector : ∀ kind, request.selector kind = none
  taskType : request.taskType = some "import"
  scanConfig : request.scanConfigId = none
  scanner : request.scannerId = none
  schedule : request.scheduleId = none
  alerts : request.alertIds = []
  alterable : request.alterable = none
  hostsOrdering : request.hostsOrdering = none
  observers : request.observers = []
  schedulePeriods : request.schedulePeriods = none
  preferences : request.preferences = []

/-- The target that a request documents. -/
inductive TargetOf : CreateTaskTarget → Prop
  | classic {targetId scanConfigId scannerId : String}
      (selects : request.Selects .classic targetId) (target : validUuid targetId = true)
      (scanConfig : HasId validUuid request.scanConfigId scanConfigId)
      (scanner : HasId validUuid request.scannerId scannerId) :
      TargetOf (.classic targetId scanConfigId scannerId)
  | agentGroup {id scannerId : String} (scans : request.Scans validUuid .agentGroup id scannerId) :
      TargetOf (.agentGroup id scannerId)
  | ociImage {id scannerId : String} (scans : request.Scans validUuid .ociImage id scannerId) :
      TargetOf (.ociImage id scannerId)
  | webApplication {id scannerId : String}
      (scans : request.Scans validUuid .webApplication id scannerId) :
      TargetOf (.webApplication id scannerId)
  | importTask (imports : request.Imports) : TargetOf .import

/-- A documented request, and the command that it stands for. -/
structure Documents (input : CreateTaskInput) : Prop where
  name : request.name = some input.name
  notBlank : ¬ Text.Blank input.name
  target : request.TargetOf validUuid input.target
  validSchedule : ∀ id ∈ request.scheduleId, validUuid id = true
  validAlerts : ∀ id ∈ request.alertIds, validUuid id = true
  comment : input.comment = request.comment
  scheduleId : input.scheduleId = request.scheduleId
  alertIds : input.alertIds = request.alertIds
  alterable : input.alterable = request.alterable
  hostsOrdering : input.hostsOrdering = request.hostsOrdering
  observers : input.observers = request.observers
  schedulePeriods : input.schedulePeriods = request.schedulePeriods
  preferences : input.preferences = request.preferences

end Documented

/-! ## The name -/

variable {validUuid : String → Bool} {request : CreateTaskRequest}

/-- A name is required, and not a blank one. -/
theorem requiredName_eq_ok {name : String} :
    request.requiredName = .ok name ↔ request.name = some name ∧ ¬ Text.Blank name := by
  unfold requiredName
  rw [← Text.isBlank_iff]
  constructor
  · intro h
    cases hname : request.name.filter (!Text.isBlank ·) with
    | none => simp [hname] at h
    | some value =>
      obtain rfl : value = name := by simpa [hname] using h
      obtain ⟨hgiven, hvisible⟩ := Option.filter_eq_some_iff.mp hname
      exact ⟨hgiven, by simpa using hvisible⟩
  · rintro ⟨hgiven, hvisible⟩
    rw [hgiven, Option.filter_some_pos (by simpa using hvisible)]

/-! ## The selectors -/

/-- The variants whose selector is present. -/
def given (request : CreateTaskRequest) : Finset ScanTaskType :=
  Finset.univ.filter fun kind => (request.selector kind).isSome

/-- The types that a request selects are those with an identifier. -/
theorem mem_given {kind : ScanTaskType} :
    kind ∈ request.given ↔ (request.selector kind).isSome = true := by
  simp [given]

theorem card_given : request.given.card = request.selectors := by
  have huniv : (Finset.univ : Finset ScanTaskType)
      = {.classic, .agentGroup, .ociImage, .webApplication} := rfl
  have hcount : ∀ a b c d : Bool, (if a then 1 else 0) + ((if b then 1 else 0)
      + ((if c then 1 else 0) + if d then 1 else 0)) = [a, b, c, d].countP id := by
    decide
  rw [given, Finset.card_filter, huniv, Finset.sum_insert (by decide),
    Finset.sum_insert (by decide), Finset.sum_insert (by decide), Finset.sum_singleton]
  exact hcount _ _ _ _

/-- One type is selected when it alone has an identifier. -/
theorem given_eq_singleton {kind : ScanTaskType} :
    request.given = {kind} ↔ (∃ id, request.selector kind = some id) ∧
      ∀ other, other ≠ kind → request.selector other = none := by
  rw [Finset.eq_singleton_iff_unique_mem, mem_given, Option.isSome_iff_exists]
  refine and_congr_right fun _ => forall_congr' fun other => ?_
  rw [mem_given, ← Option.not_isSome_iff_eq_none]
  tauto

theorem given_eq_empty : request.given = ∅ ↔ ∀ kind, request.selector kind = none := by
  simp [given, Finset.filter_eq_empty_iff]

/-- The inferred type is the type of the first selector that is present. -/
theorem inferredType_eq :
    request.inferredType = (([.classic, .agentGroup, .ociImage, .webApplication] :
      List ScanTaskType).find? fun kind => (request.selector kind).isSome).map
        ScanTaskType.name := by
  simp only [inferredType, List.find?, selector]
  cases request.targetId <;> cases request.agentGroupId <;> cases request.ociImageTargetId <;>
    cases request.webApplicationTargetId <;> rfl

/-- The type is inferred from its identifier. -/
theorem inferredType_of_given {kind : ScanTaskType} (h : request.given = {kind}) :
    request.inferredType = some kind.name := by
  have hsome : (fun other => (request.selector other).isSome) = fun other => other == kind := by
    funext other
    rw [Bool.eq_iff_iff, ← mem_given, h, Finset.mem_singleton, beq_iff_eq]
  rw [inferredType_eq, hsome]
  cases kind <;> rfl

theorem inferredType_of_given_empty (h : request.given = ∅) : request.inferredType = none := by
  have hsome : (fun other => (request.selector other).isSome) = fun _ => false := by
    funext other
    simp [given_eq_empty.mp h other]
  rw [inferredType_eq, hsome]
  rfl

/-- At most one identifier may select the type. -/
theorem checkSelectors_eq_ok :
    request.checkSelectors = .ok () ↔ request.given = ∅ ∨ ∃ kind, request.given = {kind} := by
  have hiff : request.checkSelectors = .ok () ↔ request.given.card ≤ 1 := by
    rw [card_given]
    unfold checkSelectors
    split <;> simp <;> omega
  rw [hiff, Nat.le_one_iff_eq_zero_or_eq_one, Finset.card_eq_zero, Finset.card_eq_one]

/-- A request that selects a type selects no other. -/
theorem Selects.given_eq {kind : ScanTaskType} {id : String} (h : request.Selects kind id) :
    request.given = {kind} :=
  given_eq_singleton.mpr ⟨⟨id, h.given⟩, h.alone⟩

/-! ## The type -/

theorem checks_of_selects {kind : ScanTaskType} {id : String} (h : request.Selects kind id) :
    request.checkSelectors = .ok () ∧ request.selectedType = .ok kind.name ∧
      request.checkType = .ok () := by
  have hinferred := inferredType_of_given h.given_eq
  refine ⟨checkSelectors_eq_ok.mpr (.inr ⟨kind, h.given_eq⟩), ?_, ?_⟩
  · unfold selectedType
    cases htype : request.taskType with
    | none => simp [hinferred]
    | some explicit => simp [h.taskType explicit htype]
  · unfold checkType
    cases htype : request.taskType with
    | none => rfl
    | some explicit => simp [hinferred, h.taskType explicit htype]

/-- With one selector the checks leave the type that it implies. -/
theorem selects_of_checks {kind : ScanTaskType} {selected : String}
    (hgiven : request.given = {kind}) (hselected : request.selectedType = .ok selected)
    (hcheck : request.checkType = .ok ()) :
    selected = kind.name ∧ ∃ id, request.Selects kind id := by
  have hinferred := inferredType_of_given hgiven
  obtain ⟨⟨id, hid⟩, halone⟩ := given_eq_singleton.mp hgiven
  have htype : ∀ explicit ∈ request.taskType, explicit = kind.name := by
    intro explicit hexplicit
    unfold checkType at hcheck
    rw [Option.mem_def.mp hexplicit, hinferred] at hcheck
    by_contra hne
    simp [hne] at hcheck
  refine ⟨?_, id, hid, halone, htype⟩
  unfold selectedType at hselected
  cases hexplicit : request.taskType with
  | none =>
    rw [hexplicit, hinferred] at hselected
    exact (Except.ok.inj hselected).symm
  | some explicit =>
    rw [hexplicit] at hselected
    rw [← htype explicit hexplicit]
    exact (Except.ok.inj hselected).symm

/-! ## The target -/

/-- The target of a classic task has three identifiers. -/
theorem classicTarget_eq_ok {target : CreateTaskTarget} :
    request.classicTarget validUuid = .ok target ↔ ∃ targetId scanConfigId scannerId,
      target = .classic targetId scanConfigId scannerId ∧
        HasId validUuid request.targetId targetId ∧
        HasId validUuid request.scanConfigId scanConfigId ∧
        HasId validUuid request.scannerId scannerId := by
  unfold classicTarget
  simp only [bind_eq_ok, requiredUuid_eq_ok]
  constructor
  · rintro ⟨targetId, htarget, scanConfigId, hconfig, scannerId, hscanner, h⟩
    exact ⟨targetId, scanConfigId, scannerId, (Except.ok.inj h).symm, htarget, hconfig, hscanner⟩
  · rintro ⟨targetId, scanConfigId, scannerId, rfl, htarget, hconfig, hscanner⟩
    exact ⟨targetId, htarget, scanConfigId, hconfig, scannerId, hscanner, rfl⟩

theorem scannedTarget_eq_ok {make : String → String → CreateTaskTarget} {field : String}
    {value : Option String} {target : CreateTaskTarget} :
    request.scannedTarget validUuid make field value = .ok target ↔ ∃ id scannerId,
      target = make id scannerId ∧ HasId validUuid value id ∧
        HasId validUuid request.scannerId scannerId := by
  unfold scannedTarget
  simp only [bind_eq_ok, requiredUuid_eq_ok]
  constructor
  · rintro ⟨id, hid, scannerId, hscanner, h⟩
    exact ⟨id, scannerId, (Except.ok.inj h).symm, hid, hscanner⟩
  · rintro ⟨id, scannerId, rfl, hid, hscanner⟩
    exact ⟨id, hid, scannerId, hscanner, rfl⟩

theorem importTarget_eq_ok {target : CreateTaskTarget} (htype : request.taskType = some "import") :
    request.importTarget = .ok target ↔ target = .import ∧ request.Imports := by
  have hcarries : request.importCarriesMore = false ↔ request.Imports := by
    unfold importCarriesMore
    simp only [Bool.or_eq_false_iff, decide_eq_false_iff_not, not_not, Bool.not_eq_false',
      List.isEmpty_iff, Option.isSome_eq_false_iff, Option.isNone_iff_eq_none]
    rw [← card_given, Finset.card_eq_zero, given_eq_empty]
    constructor
    · rintro ⟨⟨⟨⟨⟨⟨⟨⟨⟨h₁, h₂⟩, h₃⟩, h₄⟩, h₅⟩, h₆⟩, h₇⟩, h₈⟩, h₉⟩, h₁₀⟩
      exact ⟨h₁, htype, h₂, h₃, h₄, h₅, h₆, h₇, h₈, h₉, h₁₀⟩
    · intro h
      exact ⟨⟨⟨⟨⟨⟨⟨⟨⟨h.selector, h.scanConfig⟩, h.scanner⟩, h.schedule⟩, h.alerts⟩, h.alterable⟩,
        h.hostsOrdering⟩, h.observers⟩, h.schedulePeriods⟩, h.preferences⟩
  rw [← hcarries]
  unfold importTarget
  cases request.importCarriesMore <;> simp [eq_comm]

/-- The checks between the target and its parts: the target is not classic, so the scan config
and the hosts ordering are absent. -/
theorem scans_of_checks {kind : ScanTaskType} {selected id scannerId : String}
    (hselects : request.Selects kind selected) (hid : HasId validUuid (request.selector kind) id)
    (hscanner : HasId validUuid request.scannerId scannerId)
    (hconfig : request.checkScanConfig (.agentGroup id scannerId) = .ok ())
    (hordering : request.checkHostsOrdering (.agentGroup id scannerId) = .ok ()) :
    request.Scans validUuid kind id scannerId := by
  obtain rfl : selected = id := by
    have hgiven := hselects.given
    rw [hid.given] at hgiven
    exact (Option.some.inj hgiven).symm
  refine ⟨hselects, hid.valid, hscanner, ?_, ?_⟩
  · cases hvalue : request.scanConfigId with
    | none => rfl
    | some value => simp [checkScanConfig, hvalue] at hconfig
  · cases hvalue : request.hostsOrdering with
    | none => rfl
    | some value => simp [checkHostsOrdering, hvalue] at hordering

/-- What a variant cannot have is checked to be absent. -/
theorem Scans.checks {kind : ScanTaskType} {id scannerId : String}
    (h : request.Scans validUuid kind id scannerId) :
    request.checkScanConfig (.agentGroup id scannerId) = .ok () ∧
      request.checkHostsOrdering (.agentGroup id scannerId) = .ok () := by
  simp [checkScanConfig, checkHostsOrdering, h.scanConfig, h.hostsOrdering]

/-- Without a selector only an import request has a target. -/
theorem targetOf_of_given_empty {selected : String} {target : CreateTaskTarget}
    (hgiven : request.given = ∅) (hselected : request.selectedType = .ok selected)
    (htarget : request.target validUuid selected = .ok target) :
    request.TargetOf validUuid target := by
  have hnone := given_eq_empty.mp hgiven
  have htype : request.taskType = some selected := by
    unfold selectedType at hselected
    rw [inferredType_of_given_empty hgiven, Option.or_none] at hselected
    cases htype : request.taskType with
    | none => simp [htype] at hselected
    | some explicit =>
      rw [htype] at hselected
      exact congrArg some (Except.ok.inj hselected)
  -- a scan's target needs its selector, and none is given
  have habsent (kind : ScanTaskType) {id : String} :
      ¬ HasId validUuid (request.selector kind) id := by
    intro h
    have hgiven := h.given
    rw [hnone kind] at hgiven
    cases hgiven
  -- by the selected type; the four scans come first, as in the source
  unfold CreateTaskRequest.target at htarget
  split_ifs at htarget with h₁ h₂ h₃ h₄ h₅
  · obtain ⟨_, _, _, _, h, _⟩ := classicTarget_eq_ok.mp htarget
    exact absurd h (habsent .classic)
  · obtain ⟨_, _, _, h, _⟩ := scannedTarget_eq_ok.mp htarget
    exact absurd h (habsent .agentGroup)
  · obtain ⟨_, _, _, h, _⟩ := scannedTarget_eq_ok.mp htarget
    exact absurd h (habsent .ociImage)
  · obtain ⟨_, _, _, h, _⟩ := scannedTarget_eq_ok.mp htarget
    exact absurd h (habsent .webApplication)
  · rw [h₅] at htype
    obtain ⟨rfl, himports⟩ := (importTarget_eq_ok htype).mp htarget
    exact .importTask himports

/-- With one selector the target is of the variant that it implies. -/
theorem targetOf_of_selects {kind : ScanTaskType} {id : String} {target : CreateTaskTarget}
    (hselects : request.Selects kind id) (htarget : request.target validUuid kind.name = .ok target)
    (hconfig : request.checkScanConfig target = .ok ())
    (hordering : request.checkHostsOrdering target = .ok ()) :
    request.TargetOf validUuid target := by
  cases kind with
  | classic =>
    have hclassic : request.classicTarget validUuid = .ok target := htarget
    obtain ⟨targetId, scanConfigId, scannerId, rfl, hid, hscanConfig, hscanner⟩ :=
      classicTarget_eq_ok.mp hclassic
    obtain rfl : id = targetId :=
      Option.some.inj (hselects.given.symm.trans hid.given)
    exact .classic hselects hid.valid hscanConfig hscanner
  | agentGroup =>
    have hscanned : request.scannedTarget validUuid .agentGroup "agentGroupId"
        request.agentGroupId = .ok target := htarget
    obtain ⟨_, _, rfl, hid, hscanner⟩ := scannedTarget_eq_ok.mp hscanned
    exact .agentGroup (scans_of_checks hselects hid hscanner hconfig hordering)
  | ociImage =>
    have hscanned : request.scannedTarget validUuid .ociImage "ociImageTargetId"
        request.ociImageTargetId = .ok target := htarget
    obtain ⟨_, _, rfl, hid, hscanner⟩ := scannedTarget_eq_ok.mp hscanned
    exact .ociImage (scans_of_checks hselects hid hscanner hconfig hordering)
  | webApplication =>
    have hscanned : request.scannedTarget validUuid .webApplication "webApplicationTargetId"
        request.webApplicationTargetId = .ok target := htarget
    obtain ⟨_, _, rfl, hid, hscanner⟩ := scannedTarget_eq_ok.mp hscanned
    exact .webApplication (scans_of_checks hselects hid hscanner hconfig hordering)

/-- What the checks on the type, the selectors and the target let through. -/
theorem targetOf_iff {target : CreateTaskTarget} :
    request.TargetOf validUuid target ↔ request.checkSelectors = .ok () ∧ ∃ selected,
      request.selectedType = .ok selected ∧ request.checkType = .ok () ∧
        request.target validUuid selected = .ok target ∧
        request.checkScanConfig target = .ok () ∧
        request.checkHostsOrdering target = .ok () := by
  constructor
  · intro h
    cases h with
    | classic selects target scanConfig scanner =>
      obtain ⟨hselectors, htype, hcheck⟩ := checks_of_selects selects
      refine ⟨hselectors, _, htype, hcheck, ?_, rfl, rfl⟩
      exact classicTarget_eq_ok.mpr
        ⟨_, _, _, rfl, ⟨selects.given, target⟩, scanConfig, scanner⟩
    | agentGroup scans =>
      obtain ⟨hselectors, htype, hcheck⟩ := checks_of_selects scans.selects
      refine ⟨hselectors, _, htype, hcheck, ?_, scans.checks⟩
      exact scannedTarget_eq_ok.mpr
        ⟨_, _, rfl, ⟨scans.selects.given, scans.target⟩, scans.scanner⟩
    | ociImage scans =>
      obtain ⟨hselectors, htype, hcheck⟩ := checks_of_selects scans.selects
      refine ⟨hselectors, _, htype, hcheck, ?_, scans.checks⟩
      exact scannedTarget_eq_ok.mpr
        ⟨_, _, rfl, ⟨scans.selects.given, scans.target⟩, scans.scanner⟩
    | webApplication scans =>
      obtain ⟨hselectors, htype, hcheck⟩ := checks_of_selects scans.selects
      refine ⟨hselectors, _, htype, hcheck, ?_, scans.checks⟩
      exact scannedTarget_eq_ok.mpr
        ⟨_, _, rfl, ⟨scans.selects.given, scans.target⟩, scans.scanner⟩
    -- nothing is selected, so no type is inferred that the given one could contradict
    | importTask imports =>
      have hinferred := inferredType_of_given_empty (given_eq_empty.mpr imports.selector)
      refine ⟨checkSelectors_eq_ok.mpr (.inl (given_eq_empty.mpr imports.selector)), "import",
        ?_, ?_, (importTarget_eq_ok imports.taskType).mpr ⟨rfl, imports⟩, ?_, rfl⟩
      · simp [selectedType, imports.taskType]
      · simp [checkType, imports.taskType, hinferred]
      · simp [checkScanConfig, imports.scanConfig]
  · rintro ⟨hselectors, selected, hselected, hcheck, htarget, hconfig, hordering⟩
    -- one selector at most, by the first check
    obtain hgiven | ⟨kind, hgiven⟩ := checkSelectors_eq_ok.mp hselectors
    · exact targetOf_of_given_empty hgiven hselected htarget
    · obtain ⟨rfl, id, hselects⟩ := selects_of_checks hgiven hselected hcheck
      exact targetOf_of_selects hselects htarget hconfig hordering

/-- Validation accepts the documented requests and no others. -/
theorem validate_eq_ok {input : CreateTaskInput} :
    request.validate validUuid = .ok input ↔ request.Documents validUuid input := by
  unfold validate
  simp only [bind_eq_ok, requiredName_eq_ok]
  constructor
  · rintro ⟨name, ⟨hname, hvisible⟩, _, hselectors, selected, hselected, _, hcheck, target, htarget,
      _, hconfig, _, hordering, _, hschedule, _, halerts, h⟩
    obtain rfl := Except.ok.inj h
    have htargetOf := targetOf_iff.mpr
      ⟨hselectors, selected, hselected, hcheck, htarget, hconfig, hordering⟩
    exact ⟨hname, hvisible, htargetOf, validateOptionalUuid_eq_ok.mp hschedule,
      validateAlertIds_eq_ok.mp halerts, rfl, rfl, rfl, rfl, rfl, rfl, rfl, rfl⟩
  · intro h
    obtain ⟨hselectors, selected, hselected, hcheck, htarget, hconfig, hordering⟩ :=
      targetOf_iff.mp h.target
    refine ⟨input.name, ⟨h.name, h.notBlank⟩, (), hselectors, selected, hselected, (), hcheck,
      input.target, htarget, (), hconfig, (), hordering, (),
      validateOptionalUuid_eq_ok.mpr h.validSchedule, (),
      validateAlertIds_eq_ok.mpr h.validAlerts, ?_⟩
    rw [← h.comment, ← h.scheduleId, ← h.alertIds, ← h.alterable, ← h.hostsOrdering,
      ← h.observers, ← h.schedulePeriods, ← h.preferences]
    rfl

end CreateTaskRequest

end GvmGateway.Rest
