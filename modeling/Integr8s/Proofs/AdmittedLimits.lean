/-
Module: Integr8s.Proofs.AdmittedLimits
Purpose: What becomes of the limits that an admin may save: exactly which of
  them every service can read, and exactly when the pods built with them ask
  for no more than they may use.
Trusted boundary: none
Main exports: AdmittedLimits.Readable, AdmittedLimits.Usable,
  AdmittedLimits.usable_iff, AdmittedLimits.line_break_admitted,
  AdmittedLimits.WithinLimits, AdmittedLimits.within_limits_iff,
  AdmittedLimits.request_above_limit
-/
import Integr8s.Domain.SettingsSchema
import Integr8s.Services.Executions
import Integr8s.Services.RuntimeSettings

namespace Integr8s

namespace AdmittedLimits

open SystemSettingsSchema

/-- The condition on a limit: its text does not end in a line break, and its
exact value is not so large that it rounds to infinity. -/
structure Readable (value : String) : Prop where
  unbroken : value.toList.getLast? ≠ some '\n'
  fits : ∀ exact, exactQuantity value = some exact →
    exact < PyDecimal.defaultContext.overflowBound

/-- A limit is read as a positive quantity. -/
def Reads (value : String) : Prop :=
  ∃ quantity, parseQuantity value = .ok quantity ∧ 0 < quantity.value

/-- A text that one of the schema's patterns takes. -/
def Admitted (value : String) : Prop :=
  ∃ digits unit scale rest, value.toList = digits ++ unit ++ rest ∧
    IsCount digits ∧ (some unit, scale) ∈ quantityScale ∧ IsLineEnd rest

/-- An admitted limit is read, with its exact value as far as the bounds of
this model can tell, or reading it raises. -/
structure ReadsExactly (value : String) (exact : ℚ) (quantity : PyDecimal) :
    Prop where
  stands : exactQuantity value = some exact
  reads : parseQuantity value = .ok quantity
  positive : 0 < exact
  stays : 0 < quantity.value
  compares : ∀ bound : ℚ, bound ≤ 10 ^ 25 →
    (bound ≤ quantity.value ↔ bound ≤ exact)

/-! ### Which limits can be read -/

section Reading

variable {value : String}

private theorem admitted_of_memory (matched : matchesMemory value = true) :
    Admitted value := by
  obtain ⟨digits, unit, rest, parts, count, among, ends⟩ :=
    (matchesMemory_iff value).mp matched
  have known : ∀ unit ∈ [['M', 'i'], ['G', 'i'], ['K', 'i']],
      ∃ scale, (some unit, scale) ∈ quantityScale := by
    simp [quantityScale]
  obtain ⟨scale, known⟩ := known unit among
  exact ⟨digits, unit, scale, rest, parts, count, known, ends⟩

private theorem admitted_of_cpu (matched : matchesCpu value = true) :
    Admitted value := by
  obtain ⟨digits, rest, parts, count, ends⟩ :=
    (matchesCpu_iff value).mp matched
  exact ⟨digits, ['m'], ⟨1, -3⟩, rest, parts, count, by simp [quantityScale],
    ends⟩

private theorem reads_cases (admitted : Admitted value) :
    (¬ Readable value ∧ ∃ error, parseQuantity value = .error error) ∨
      Readable value ∧ ∃ exact quantity, ReadsExactly value exact quantity := by
  obtain ⟨digits, unit, scale, rest, parts, count, known, rfl | rfl⟩ :=
    admitted
  · rw [List.append_nil] at parts
    have isUnit := isUnit_of_known known
    have some : digits ≠ [] := by
      rintro rfl
      obtain ⟨c, -, leads⟩ := count.leads
      cases leads
    have stands := exactQuantity_eq parts count.decimal known
    have positive : 0 < (PyDecimal.ofText digits).value * scale.value :=
      mul_pos (PyDecimal.value_pos.mpr count.positive)
        (PyDecimal.value_pos.mpr (exponent_of_known known).2)
    rcases parseQuantity_cases parts some count.decimal known stands with
      ⟨beyond, raises⟩ | ⟨within, quantity, reads, stays, compares⟩
    · exact .inl ⟨fun readable => absurd beyond
        (not_le.mpr (readable.fits _ stands)), _, raises⟩
    · refine .inr ⟨⟨?_, ?_⟩, _, quantity, stands, reads, positive,
        stays positive, compares⟩
      · rw [parts, List.getLast?_append_of_ne_nil _ isUnit.letters.1]
        intro ends
        exact (isUnit.letters.2 _ (List.mem_of_getLast? ends)).2 rfl
      · intro exact same
        cases stands.symm.trans same
        exact within
  · exact .inl ⟨fun readable => readable.unbroken (by simp [parts]), _,
      parseQuantity_newline parts⟩

/-- An admitted limit is read exactly when it is readable. -/
theorem reads_iff (admitted : Admitted value) : Reads value ↔ Readable value := by
  rcases reads_cases admitted with
    ⟨broken, error, raises⟩ | ⟨readable, exact, quantity, reads⟩
  · refine iff_of_false ?_ broken
    rintro ⟨quantity, reads, -⟩
    cases raises.symm.trans reads
  · exact iff_of_true ⟨quantity, reads.reads, reads.stays⟩ readable

end Reading

/-! ### The least limits -/

section Minimums

/-- A minimum is read as it stands, and is no large number. -/
def IsMinimum (minimum : String) (least : PyDecimal) : Prop :=
  parseQuantity minimum = .ok least ∧
    exactQuantity minimum = some least.value ∧ least.value ≤ 10 ^ 25

/-- What a language's minimum of CPU is read as. -/
def leastCpu (language : String) : PyDecimal :=
  if language = "go" then ⟨1000, -3⟩ else ⟨0, 0⟩

/-- What a language's minimum of memory is read as. -/
def leastMemory (language : String) : PyDecimal :=
  if language = "go" then ⟨335544320, 0⟩ else ⟨0, 0⟩

theorem isMinimum_minCpu (language : String) :
    IsMinimum (podRuntimeConfig language).minCpu (leastCpu language) := by
  rw [podRuntimeConfig_eq, leastCpu]
  split
  · exact ⟨by decide +kernel, by decide +kernel, by norm_num [PyDecimal.value]⟩
  · exact ⟨by decide +kernel, by decide +kernel, by norm_num [PyDecimal.value]⟩

theorem isMinimum_minMemory (language : String) :
    IsMinimum (podRuntimeConfig language).minMemory
      (leastMemory language) := by
  rw [podRuntimeConfig_eq, leastMemory]
  split
  · exact ⟨by decide +kernel, by decide +kernel, by norm_num [PyDecimal.value]⟩
  · exact ⟨by decide +kernel, by decide +kernel, by norm_num [PyDecimal.value]⟩

variable {value minimum : String} {exact : ℚ} {quantity least : PyDecimal}

private theorem atLeast_ok (reads : parseQuantity value = .ok quantity)
    (readsToo : parseQuantity minimum = .ok least) :
    atLeast value minimum =
      .ok (if quantity.isAtLeast least then value else minimum) := by
  simp only [atLeast, reads, readsToo]
  rfl

/-- A limit that is raised to a minimum is the larger of the two, under the
comparison of their exact values. -/
theorem atLeast_reads (reads : ReadsExactly value exact quantity)
    (least_reads : IsMinimum minimum least) :
    atLeast value minimum =
      .ok (if least.value ≤ exact then value else minimum) := by
  rw [atLeast_ok reads.reads least_reads.1]
  congr 1
  exact if_congr ((PyDecimal.isAtLeast_iff ..).trans
    (reads.compares _ least_reads.2.2)) rfl rfl

/-- What is at least a positive limit is positive. -/
theorem reads_atLeast {larger : String}
    (reads : ReadsExactly value exact quantity)
    (least_reads : IsMinimum minimum least)
    (answer : atLeast value minimum = .ok larger) : Reads larger := by
  rw [atLeast_reads reads least_reads] at answer
  cases answer
  split
  · exact ⟨quantity, reads.reads, reads.stays⟩
  · next more =>
      exact ⟨least, least_reads.1, reads.positive.trans (not_le.mp more)⟩

end Minimums

/-! ### The services that use the limits -/

section Services

/-- Every service that reads the limits of these settings can: the loader and
the result processor for every language, and the pod builder for every event
with these limits. -/
structure Usable (settings : Settings) (admitted : SystemSettings) : Prop where
  memory : Reads admitted.memoryLimit
  cpu : Reads admitted.cpuLimit
  limits : ∀ language, ∃ limits,
    RuntimeSettingsLoader.languageLimits settings admitted language =
      .ok limits ∧ Reads limits.memoryLimit
  pods : ∀ event : ExecutionRequestedEvent,
    event.cpuLimit = admitted.cpuLimit →
      event.memoryLimit = admitted.memoryLimit →
        ∃ pod, PodBuilder.buildPodManifest settings event = .ok pod

variable {settings : Settings} {admitted : SystemSettings}

theorem admitted_limits (accepted : accepts admitted = true) :
    Admitted admitted.memoryLimit ∧ Admitted admitted.cpuLimit := by
  simp only [accepts, Bool.and_eq_true] at accepted
  obtain ⟨⟨⟨⟨⟨⟨⟨⟨-, memory⟩, cpu⟩, -⟩, -⟩, -⟩, -⟩, -⟩, -⟩ := accepted
  exact ⟨admitted_of_memory memory, admitted_of_cpu cpu⟩

/-- An admitted limit is not empty, so none of the settings replaces it. -/
theorem valueOr_of_reads {value : String} (reads : Reads value)
    (fallback : String) : valueOr value fallback = value := by
  unfold valueOr
  split
  · next empty =>
      obtain ⟨quantity, parsed, -⟩ := reads
      have raises : parseQuantity "" = .error .valueError := by decide +kernel
      rw [empty] at parsed
      cases raises.symm.trans parsed
  · rfl

/-- The pod of an event has one container, with the event's resources, and the
deadline of its language. -/
theorem buildPodManifest_eq {settings : Settings}
    {event : ExecutionRequestedEvent} {resources : ResourceRequirements}
    (built : PodBuilder.buildResources settings event
      (podRuntimeConfig event.language) = .ok resources) :
    ∃ pod container, PodBuilder.buildPodManifest settings event = .ok pod ∧
      pod.spec.containers = [container] ∧ container.resources = resources ∧
      pod.spec.activeDeadlineSeconds =
        some ((podRuntimeConfig event.language).timeoutFor
          (if event.timeoutSeconds = 0 then 300
            else event.timeoutSeconds)) := by
  simp only [PodBuilder.buildPodManifest, PodBuilder.buildContainer, built]
  exact ⟨_, _, rfl, rfl, rfl, rfl⟩

section Readable

variable {memory cpu : ℚ} {memoryQuantity cpuQuantity : PyDecimal}
  (memoryReads : ReadsExactly admitted.memoryLimit memory memoryQuantity)
  (cpuReads : ReadsExactly admitted.cpuLimit cpu cpuQuantity)

include memoryReads cpuReads

/-- The limits of a language under readable settings: each is the larger of the
admin's and the language's. -/
theorem languageLimits_eq (settings : Settings) (language : String) :
    RuntimeSettingsLoader.languageLimits settings admitted language =
      .ok
        { cpuLimit :=
            if (leastCpu language).value ≤ cpu then admitted.cpuLimit
            else (podRuntimeConfig language).minCpu
          memoryLimit :=
            if (leastMemory language).value ≤ memory then admitted.memoryLimit
            else (podRuntimeConfig language).minMemory
          executionTimeout := (podRuntimeConfig language).timeoutFor
            admitted.maxTimeoutSeconds } := by
  have memorySame := valueOr_of_reads
    ⟨_, memoryReads.reads, memoryReads.stays⟩ settings.k8sPodMemoryLimit
  have cpuSame := valueOr_of_reads
    ⟨_, cpuReads.reads, cpuReads.stays⟩ settings.k8sPodCpuLimit
  have memoryLarger := atLeast_reads memoryReads (isMinimum_minMemory language)
  have cpuLarger := atLeast_reads cpuReads (isMinimum_minCpu language)
  simp only [RuntimeSettingsLoader.languageLimits, memorySame, cpuSame,
    memoryLarger, cpuLarger]
  rfl

/-- The pod of an event with readable limits has the limits of its
language. -/
theorem buildResources_eq (settings : Settings)
    {event : ExecutionRequestedEvent}
    (cpuSame : event.cpuLimit = admitted.cpuLimit)
    (memorySame : event.memoryLimit = admitted.memoryLimit) :
    ∃ limits,
      RuntimeSettingsLoader.languageLimits settings admitted event.language =
        .ok limits ∧
      PodBuilder.buildResources settings event
          (podRuntimeConfig event.language) =
        .ok
          { cpuRequest :=
              valueOr event.cpuRequest settings.k8sPodCpuRequest
            memoryRequest :=
              valueOr event.memoryRequest settings.k8sPodMemoryRequest
            cpuLimit := limits.cpuLimit
            memoryLimit := limits.memoryLimit } := by
  refine ⟨_, languageLimits_eq memoryReads cpuReads settings event.language,
    ?_⟩
  have memoryTaken := valueOr_of_reads
    ⟨_, memoryReads.reads, memoryReads.stays⟩ settings.k8sPodMemoryLimit
  have cpuTaken := valueOr_of_reads
    ⟨_, cpuReads.reads, cpuReads.stays⟩ settings.k8sPodCpuLimit
  have memoryLarger := atLeast_reads memoryReads
    (isMinimum_minMemory event.language)
  have cpuLarger := atLeast_reads cpuReads (isMinimum_minCpu event.language)
  simp only [PodBuilder.buildResources, cpuSame, memorySame, memoryTaken,
    cpuTaken, memoryLarger, cpuLarger]
  rfl

/-- Readable settings are usable. -/
theorem usable_of_reads (settings : Settings) : Usable settings admitted where
  memory := ⟨_, memoryReads.reads, memoryReads.stays⟩
  cpu := ⟨_, cpuReads.reads, cpuReads.stays⟩
  limits language := by
    refine ⟨_, languageLimits_eq memoryReads cpuReads settings language, ?_⟩
    exact reads_atLeast memoryReads (isMinimum_minMemory language)
      (atLeast_reads memoryReads (isMinimum_minMemory language))
  pods event cpuSame memorySame := by
    obtain ⟨limits, -, built⟩ := buildResources_eq memoryReads cpuReads settings
      cpuSame memorySame
    obtain ⟨pod, -, manifest, -⟩ := buildPodManifest_eq built
    exact ⟨pod, manifest⟩

end Readable

/-- Settings that the schema accepts are usable exactly when neither limit ends
in a line break or rounds to infinity.  The schema's patterns let the first
pass since their `$` matches before a last line break, and say nothing of the
size of a number. -/
theorem usable_iff (settings : Settings) {admitted : SystemSettings}
    (accepted : accepts admitted = true) :
    Usable settings admitted ↔
      Readable admitted.memoryLimit ∧ Readable admitted.cpuLimit := by
  obtain ⟨memory, cpu⟩ := admitted_limits accepted
  constructor
  · exact fun usable => ⟨(reads_iff memory).mp usable.memory,
      (reads_iff cpu).mp usable.cpu⟩
  · rintro ⟨memoryReadable, cpuReadable⟩
    rcases reads_cases memory with
      ⟨broken, -⟩ | ⟨-, exactMemory, memoryQuantity, memoryReads⟩
    · exact absurd memoryReadable broken
    rcases reads_cases cpu with
      ⟨broken, -⟩ | ⟨-, exactCpu, cpuQuantity, cpuReads⟩
    · exact absurd cpuReadable broken
    exact usable_of_reads memoryReads cpuReads settings

/-- A quantity of a few digits does not round to infinity. -/
theorem fits_of_small {value : String} {exact : ℚ}
    (stands : exactQuantity value = some exact) (small : exact ≤ 10 ^ 25) :
    ∀ other, exactQuantity value = some other →
      other < PyDecimal.defaultContext.overflowBound := by
  intro other same
  cases stands.symm.trans same
  refine small.trans_lt ?_
  rw [← zpow_natCast]
  exact PyDecimal.below_overflowBound (by decide)

theorem usable_iff_default :
    accepts {} = true ∧ Usable {} ({} : SystemSettings) := by
  have accepted : accepts {} = true := by decide +kernel
  have memory : exactQuantity "512Mi" = some 536870912 := by decide +kernel
  have cpu : exactQuantity "2000m" = some 2 := by decide +kernel
  refine ⟨accepted, (usable_iff {} accepted).mpr
    ⟨⟨by decide +kernel, ?_⟩, ⟨by decide +kernel, ?_⟩⟩⟩
  · exact fits_of_small memory (by norm_num)
  · exact fits_of_small cpu (by norm_num)

/-- A memory limit with a line break at its end is saved, and then the limits of
no language can be told. -/
theorem line_break_admitted :
    accepts { memoryLimit := "512Mi\n" } = true ∧
    (∀ language, RuntimeSettingsLoader.languageLimits {}
      { memoryLimit := "512Mi\n" } language = .error .valueError) ∧
    ¬ Usable {} { memoryLimit := "512Mi\n" } := by
  have raises : ∀ language, RuntimeSettingsLoader.languageLimits {}
      { memoryLimit := "512Mi\n" } language = .error .valueError := by
    intro language
    unfold RuntimeSettingsLoader.languageLimits
    rw [podRuntimeConfig_eq]
    split
    · decide +kernel
    · decide +kernel
  refine ⟨by decide +kernel, raises, fun usable => ?_⟩
  obtain ⟨limits, told, -⟩ := usable.limits "python"
  cases (raises "python").symm.trans told

end Services

/-! ### Requests and limits of a pod -/

section Requests

/-- One quantity is at most another, exactly. -/
def AtMost (request limit : String) : Prop :=
  ∃ asked most, exactQuantity request = some asked ∧
    exactQuantity limit = some most ∧ asked ≤ most

/-- A container asks for no more than it may use, as Kubernetes demands. -/
structure WithinLimits (resources : ResourceRequirements) : Prop where
  cpu : AtMost resources.cpuRequest resources.cpuLimit
  memory : AtMost resources.memoryRequest resources.memoryLimit

/-- Every container of a pod keeps within its limits. -/
def Admissible (pod : Pod) : Prop :=
  ∀ container ∈ pod.spec.containers, WithinLimits container.resources

/-- What an admin's limits have to be at least: the requests that every pod
makes. -/
def CoversRequests (admitted : SystemSettings) : Prop :=
  AtMost "128Mi" admitted.memoryLimit ∧ AtMost "200m" admitted.cpuLimit

theorem exactQuantity_cpuRequest : exactQuantity "200m" = some (1 / 5) := by
  decide +kernel

private theorem exactQuantity_memoryRequest :
    exactQuantity "128Mi" = some 134217728 := by
  decide +kernel

/-- The larger of limit and minimum covers what one of them covers. -/
theorem atMost_larger {request value minimum : String} {asked exact least : ℚ}
    (wanted : exactQuantity request = some asked)
    (stands : exactQuantity value = some exact)
    (standsToo : exactQuantity minimum = some least) :
    AtMost request (if least ≤ exact then value else minimum) ↔
      asked ≤ least ∨ AtMost request value := by
  have covers : AtMost request value ↔ asked ≤ exact := by
    simp [AtMost, wanted, stands]
  rw [covers]
  split
  · next larger =>
      rw [covers]
      exact ⟨.inr, fun either => either.elim (·.trans larger) id⟩
  · next smaller =>
      have covered : AtMost request minimum ↔ asked ≤ least := by
        simp [AtMost, wanted, standsToo]
      rw [covered]
      exact ⟨.inl, fun either => either.elim id
        (·.trans (not_le.mp smaller).le)⟩

/-- A limit that parses is read. -/
theorem reads_of_parses {value : String} (admitted : Admitted value)
    (parses : ∃ quantity, parseQuantity value = .ok quantity) :
    ∃ exact quantity, ReadsExactly value exact quantity := by
  rcases reads_cases admitted with ⟨-, error, raises⟩ | ⟨-, reads⟩
  · obtain ⟨quantity, parsed⟩ := parses
    cases raises.symm.trans parsed
  · exact reads

/-- The pod of a published event is built, and it keeps within its limits
exactly when its language raises them or the admin's limits cover the
requests. -/
theorem within_limits_iff {admitted : SystemSettings}
    (accepted : accepts admitted = true)
    (memoryParses : ∃ quantity,
      parseQuantity admitted.memoryLimit = .ok quantity)
    (cpuParses : ∃ quantity, parseQuantity admitted.cpuLimit = .ok quantity)
    (submission : Submission) (runtimeCfg : RuntimeConfig)
    (executionId : ExecutionId) (eventId : EventId) :
    ∃ pod, PodBuilder.buildPodManifest Settings.shipped
        (ExecutionService.requestedEvent Settings.shipped submission runtimeCfg
          admitted executionId eventId) = .ok pod ∧
      (Admissible pod ↔
        submission.lang = "go" ∨ CoversRequests admitted) := by
  obtain ⟨memoryAdmitted, cpuAdmitted⟩ := admitted_limits accepted
  obtain ⟨memory, _, memoryReads⟩ :=
    reads_of_parses memoryAdmitted memoryParses
  obtain ⟨cpu, _, cpuReads⟩ := reads_of_parses cpuAdmitted cpuParses
  let event := ExecutionService.requestedEvent Settings.shipped submission
    runtimeCfg admitted executionId eventId
  have cpuSame : event.cpuLimit = admitted.cpuLimit := rfl
  obtain ⟨limits, told, built⟩ :=
    buildResources_eq memoryReads cpuReads Settings.shipped cpuSame rfl
  obtain ⟨pod, container, manifest, containers, resources, -⟩ :=
    buildPodManifest_eq built
  have language : event.language = submission.lang := rfl
  rw [languageLimits_eq memoryReads cpuReads] at told
  cases told
  refine ⟨pod, manifest, ?_⟩
  have cpuCovered := atMost_larger exactQuantity_cpuRequest cpuReads.stands
    (isMinimum_minCpu submission.lang).2.1
  have memoryCovered := atMost_larger exactQuantity_memoryRequest
    memoryReads.stands (isMinimum_minMemory submission.lang).2.1
  have admissible : Admissible pod ↔
      AtMost "200m" container.resources.cpuLimit ∧
        AtMost "128Mi" container.resources.memoryLimit := by
    rw [Admissible, containers, List.forall_mem_singleton]
    rw [resources]
    exact ⟨fun within => ⟨within.cpu, within.memory⟩,
      fun within => ⟨within.1, within.2⟩⟩
  rw [admissible, resources]
  simp only [language]
  rw [cpuCovered, memoryCovered]
  by_cases go : submission.lang = "go"
  · have cpuRaised : (1 / 5 : ℚ) ≤ (leastCpu submission.lang).value := by
      norm_num [leastCpu, go, PyDecimal.value]
    have memoryRaised :
        (134217728 : ℚ) ≤ (leastMemory submission.lang).value := by
      norm_num [leastMemory, go, PyDecimal.value]
    exact iff_of_true ⟨.inl cpuRaised, .inl memoryRaised⟩ (.inl go)
  · have cpuOpen : ¬ (1 / 5 : ℚ) ≤ (leastCpu submission.lang).value := by
      norm_num [leastCpu, go, PyDecimal.value]
    have memoryOpen :
        ¬ (134217728 : ℚ) ≤ (leastMemory submission.lang).value := by
      norm_num [leastMemory, go, PyDecimal.value]
    rw [or_iff_right cpuOpen, or_iff_right memoryOpen, or_iff_right go,
      CoversRequests, and_comm]

/-- What a user submits. -/
def printOne : Submission where
  script := "print(1)"
  userId := "u"

/-- The runtime of Python 3.14. -/
def pythonRuntime : RuntimeConfig where
  image := "python:3.14-slim"
  fileName := "main.py"
  command := ["python", "/scripts/main.py"]

theorem within_limits_iff_default :
    ∃ pod, PodBuilder.buildPodManifest Settings.shipped
        (ExecutionService.requestedEvent Settings.shipped printOne
          pythonRuntime {} "x" "request") = .ok pod ∧
      Admissible pod := by
  have accepted : accepts {} = true := by decide +kernel
  have memory : parseQuantity "512Mi" = .ok ⟨536870912, 0⟩ := by
    decide +kernel
  have cpu : parseQuantity "2000m" = .ok ⟨2000, -3⟩ := by decide +kernel
  obtain ⟨pod, built, admissible⟩ := within_limits_iff accepted ⟨_, memory⟩
    ⟨_, cpu⟩ printOne pythonRuntime "x" "request"
  have most : exactQuantity "512Mi" = some 536870912 := by decide +kernel
  have mostCpu : exactQuantity "2000m" = some 2 := by decide +kernel
  refine ⟨pod, built, admissible.mpr (.inr ⟨?_, ?_⟩)⟩
  · exact ⟨_, _, exactQuantity_memoryRequest, most, by norm_num⟩
  · exact ⟨_, _, exactQuantity_cpuRequest, mostCpu, by norm_num⟩

/-- With a memory limit below the request that every pod makes, which the
schema takes, the API server refuses every pod. -/
theorem request_above_limit :
    accepts { memoryLimit := "64Mi" } = true ∧
    ∃ pod, PodBuilder.buildPodManifest Settings.shipped
        (ExecutionService.requestedEvent Settings.shipped printOne
          pythonRuntime { memoryLimit := "64Mi" } "x" "request") = .ok pod ∧
      ¬ Admissible pod := by
  have built : PodBuilder.buildResources Settings.shipped
      (ExecutionService.requestedEvent Settings.shipped printOne pythonRuntime
        { memoryLimit := "64Mi" } "x" "request") (podRuntimeConfig "python") =
      .ok
        { cpuRequest := "200m"
          memoryRequest := "128Mi"
          cpuLimit := "2000m"
          memoryLimit := "64Mi" } := by
    decide +kernel
  obtain ⟨pod, container, manifest, containers, resources, -⟩ :=
    buildPodManifest_eq built
  refine ⟨by decide +kernel, pod, manifest, fun admissible => ?_⟩
  have within := admissible container (by simp [containers])
  rw [resources] at within
  obtain ⟨asked, most, wanted, stands, less⟩ := within.memory
  have small : exactQuantity "64Mi" = some 67108864 := by decide +kernel
  cases exactQuantity_memoryRequest.symm.trans wanted
  cases small.symm.trans stands
  norm_num at less

end Requests

end AdmittedLimits

end Integr8s
