import SqlInsert.Journal.Registry
/-!
# A setup on demand never overrides one that was asked for

The sources of entries and the setups share three pieces of state: the names with their sources,
whether a setup was made, and the threshold of the root. A call changes them in one of three ways or
not at all. What every call preserves is an agreement of the state with the setups made so far, each
with the call that made it. So it holds after any calls in any order, also where some of them fail.
-/

namespace SqlInsert.Journal

/-- What is called of the journal. -/
inductive Call
  | setUp (around : Circumstances) (request : Request)
  | source (around : Circumstances) (name : String)

namespace Call

/-- What the call meets outside. -/
def around : Call → Circumstances
  | .setUp around _ => around
  | .source around _ => around

/-- The request of the setup that the call makes if it makes one. -/
def request : Call → Request
  | .setUp _ request => request
  | .source _ _ => .standard

/-- A setup is what the call is for. -/
def isExplicit : Call → Bool
  | .setUp _ _ => true
  | .source _ _ => false

end Call

namespace Registry

/-- What a call does, with the source if it asks for one. -/
def call (registry : Registry) : Call → Effect (Option String)
  | .setUp around request =>
    let effect := registry.setUp around request
    ⟨effect.registry, effect.made, effect.answer.map fun _ => none⟩
  | .source around name =>
    let effect := registry.source around name
    ⟨effect.registry, effect.made, effect.answer.map some⟩

/-- The state after calls. -/
def after (registry : Registry) (calls : List Call) : Registry :=
  calls.foldl (fun registry call => (registry.call call).registry) registry

/-- The setups that calls make, each with its call. -/
def setups (registry : Registry) : List Call → List (Call × Configuration)
  | [] => []
  | call :: calls =>
    ((registry.call call).made.map (call, ·)).toList ++ (registry.call call).registry.setups calls

/-! ## What one call can do -/

variable {registry : Registry} {around : Circumstances} {request : Request} {name : String}

/-- A setup that cannot be prepared leaves the registry as it was and answers with the fault. -/
theorem setUp_of_error {fault : SetupFault} (h : prepare around request = .error fault) :
    registry.setUp around request = ⟨registry, none, .error fault⟩ := by
  rw [setUp, h]

/-- A setup that was prepared becomes the last of the registry. -/
theorem setUp_of_ok {configuration : Configuration} (h : prepare around request = .ok configuration) :
    registry.setUp around request = ⟨registry.withSetup configuration, some configuration, .ok ()⟩ := by
  rw [setUp, h]

/-- A registry that is configured is not set up again. -/
theorem setUpIfNeeded_of_configured (h : registry.isConfigured = true) :
    registry.setUpIfNeeded around = ⟨registry, none, .ok ()⟩ := by
  rw [setUpIfNeeded, if_pos h]

/-- A registry that is not configured is set up with the standard request. -/
theorem setUpIfNeeded_of_not_configured (h : registry.isConfigured = false) :
    registry.setUpIfNeeded around = registry.setUp around .standard := by
  rw [setUpIfNeeded, h]
  rfl

/-- A source that is kept is given again. -/
theorem source_of_known {source : String} (h : registry.sources.lookup name = some source) :
    registry.source around name = ⟨registry, none, .ok source⟩ := by
  rw [Registry.source, h]

/-- A new source is kept once a setup is in force. -/
theorem source_of_ready {ready : Registry} {made : Option Configuration}
    (hnew : registry.sources.lookup name = none)
    (hready : registry.setUpIfNeeded around = ⟨ready, made, .ok ()⟩) :
    registry.source around name =
      ⟨ready.withSource name (rootSource ++ "." ++ name), made, .ok (rootSource ++ "." ++ name)⟩ := by
  simp only [Registry.source, hnew, hready]

/-- A new source without a setup fails as the setup does. -/
theorem source_of_fault {left : Registry} {made : Option Configuration} {fault : SetupFault}
    (hnew : registry.sources.lookup name = none)
    (hready : registry.setUpIfNeeded around = ⟨left, made, .error fault⟩) :
    registry.source around name = ⟨left, made, .error fault⟩ := by
  simp only [Registry.source, hnew, hready]

/-- The effects that a call can have. -/
inductive Step (registry : Registry) : Call → Effect (Option String) → Prop
  /-- The setup is not made. Where a source was asked for, no setup was in force before. -/
  | failed {call : Call} {fault : SetupFault} (hprepare : prepare call.around call.request = .error fault)
      (hfirst : call.isExplicit = false → registry.isConfigured = false) :
      Step registry call ⟨registry, none, .error fault⟩
  | setUp {around : Circumstances} {request : Request} {configuration : Configuration}
      (hprepare : prepare around request = .ok configuration) :
      Step registry (.setUp around request) ⟨registry.withSetup configuration, some configuration, .ok none⟩
  | known {around : Circumstances} {name source : String} (hknown : registry.sources.lookup name = some source) :
      Step registry (.source around name) ⟨registry, none, .ok (some source)⟩
  /-- A setup is in force, and the source is kept. -/
  | named {around : Circumstances} {name : String} (hnew : registry.sources.lookup name = none)
      (hconfigured : registry.isConfigured = true) :
      Step registry (.source around name)
        ⟨registry.withSource name (rootSource ++ "." ++ name), none, .ok (some (rootSource ++ "." ++ name))⟩
  /-- A setup is made on demand, and the source is kept. -/
  | demanded {around : Circumstances} {name : String} {configuration : Configuration}
      (hnew : registry.sources.lookup name = none) (hfirst : registry.isConfigured = false)
      (hprepare : prepare around .standard = .ok configuration) :
      Step registry (.source around name)
        ⟨(registry.withSetup configuration).withSource name (rootSource ++ "." ++ name), some configuration,
          .ok (some (rootSource ++ "." ++ name))⟩

/-- The call for a setup does what the setup does and hands out no source. -/
theorem call_setUp : registry.call (.setUp around request) =
    ⟨(registry.setUp around request).registry, (registry.setUp around request).made,
      (registry.setUp around request).answer.map fun _ => none⟩ := rfl

/-- The call for a source hands out the source. -/
theorem call_source : registry.call (.source around name) =
    ⟨(registry.source around name).registry, (registry.source around name).made,
      (registry.source around name).answer.map some⟩ := rfl

/-- Every call has one of these effects. -/
theorem step_call (registry : Registry) (call : Call) : Step registry call (registry.call call) := by
  -- One constructor of the step for each way through the call.
  cases call with
  | setUp around request =>
    rw [call_setUp]
    cases hprepare : prepare around request with
    | error fault =>
      rw [setUp_of_error hprepare]
      have hfailed : prepare (Call.setUp around request).around (Call.setUp around request).request =
          .error fault := hprepare
      exact .failed hfailed fun hexplicit => by cases hexplicit
    | ok configuration =>
      rw [setUp_of_ok hprepare]
      exact .setUp hprepare
  | source around name =>
    rw [call_source]
    cases hlookup : registry.sources.lookup name with
    | some source =>
      rw [source_of_known hlookup]
      exact .known hlookup
    | none =>
      cases hconfigured : registry.isConfigured with
      | true =>
        rw [source_of_ready hlookup (setUpIfNeeded_of_configured hconfigured)]
        exact .named hlookup hconfigured
      | false =>
        have hneeded : registry.setUpIfNeeded around = registry.setUp around .standard :=
          setUpIfNeeded_of_not_configured hconfigured
        cases hprepare : prepare around .standard with
        | error fault =>
          rw [source_of_fault hlookup (hneeded.trans (setUp_of_error hprepare))]
          have hfailed : prepare (Call.source around name).around (Call.source around name).request =
              .error fault := hprepare
          exact .failed hfailed fun _ => hconfigured
        | ok configuration =>
          rw [source_of_ready hlookup (hneeded.trans (setUp_of_ok hprepare))]
          exact .demanded hlookup hconfigured hprepare

/-! ## What every call preserves -/

/-- The state agrees with the setups made so far. -/
structure Agrees (made : List (Call × Configuration)) (registry : Registry) : Prop where
  configured_iff : registry.isConfigured = true ↔ made ≠ []
  made_of_sources : registry.sources ≠ [] → made ≠ []
  named : ∀ entry ∈ registry.sources, entry.2 = rootSource ++ "." ++ entry.1
  threshold_eq : registry.threshold = ((made.getLast?.map (·.2.threshold)).getD .inherited)
  /-- Only the first setup can have been made on demand. -/
  explicit : ∀ entry ∈ made.tail, entry.1.isExplicit = true
  prepared : ∀ entry ∈ made, prepare entry.1.around entry.1.request = .ok entry.2

/-- Before any call the history and the registry agree. -/
theorem agrees_initial : Agrees [] initial where
  configured_iff := by simp [initial]
  made_of_sources := by simp [initial]
  named := by simp [initial]
  threshold_eq := rfl
  explicit := by simp
  prepared := by simp

variable {made : List (Call × Configuration)}

/-- Where no setup is in force, none was made. -/
theorem Agrees.made_eq_nil (h : Agrees made registry) (hconfigured : registry.isConfigured = false) : made = [] := by
  cases hmade : made with
  | nil => rfl
  | cons first rest =>
    have htrue : registry.isConfigured = true := h.configured_iff.mpr (by simp [hmade])
    rw [hconfigured] at htrue
    cases htrue

/-- A setup that is made next. One on demand is only made first. -/
theorem Agrees.withSetup (h : Agrees made registry) {call : Call} {configuration : Configuration}
    (hprepare : prepare call.around call.request = .ok configuration)
    (hfirst : call.isExplicit = false → registry.isConfigured = false) :
    Agrees (made ++ [(call, configuration)]) (registry.withSetup configuration) where
  configured_iff := by simp [Registry.withSetup]
  made_of_sources := by simp
  named := h.named
  threshold_eq := by simp [Registry.withSetup]
  explicit := by
    intro entry hentry
    -- Only the first setup may be one on demand, and this is the first only if there was none before.
    cases hmade : made with
    | nil => simp [hmade] at hentry
    | cons first rest =>
      rw [hmade, List.cons_append, List.tail_cons] at hentry
      rcases List.mem_append.mp hentry with hearlier | hlast
      · exact h.explicit entry (by simpa only [hmade, List.tail_cons] using hearlier)
      · rw [List.mem_singleton.mp hlast]
        cases hexplicit : call.isExplicit with
        | true => rfl
        | false =>
          have hnone : made = [] := h.made_eq_nil (hfirst hexplicit)
          rw [hmade] at hnone
          cases hnone
  prepared := by
    intro entry hentry
    rcases List.mem_append.mp hentry with hearlier | hlast
    · exact h.prepared entry hearlier
    · rw [List.mem_singleton.mp hlast]
      exact hprepare

/-- A name that is kept next, once a setup is in force. -/
theorem Agrees.withSource (h : Agrees made registry) (hconfigured : registry.isConfigured = true) (name : String) :
    Agrees made (registry.withSource name (rootSource ++ "." ++ name)) where
  configured_iff := h.configured_iff
  made_of_sources := fun _ => h.configured_iff.mp hconfigured
  named := by
    intro entry hentry
    rcases List.mem_append.mp hentry with hearlier | hlast
    · exact h.named entry hearlier
    · rw [List.mem_singleton.mp hlast]
  threshold_eq := h.threshold_eq
  explicit := h.explicit
  prepared := h.prepared

/-- One call keeps the agreement with the setups made so far and its own. -/
theorem Agrees.call (h : Agrees made registry) (call : Call) :
    Agrees (made ++ ((registry.call call).made.map (call, ·)).toList) (registry.call call).registry := by
  have hstep : Step registry call (registry.call call) := step_call registry call
  generalize registry.call call = effect at hstep
  cases hstep with
  | failed hprepare hfirst => simpa using h
  | @setUp around request configuration hprepare =>
    have hmade : prepare (Call.setUp around request).around (Call.setUp around request).request =
        .ok configuration := hprepare
    exact h.withSetup hmade fun hexplicit => by cases hexplicit
  | known hknown => simpa using h
  | named hnew hconfigured => simpa using h.withSource hconfigured _
  | @demanded around name configuration hnew hfirst hprepare =>
    have hmade : prepare (Call.source around name).around (Call.source around name).request =
        .ok configuration := hprepare
    exact (h.withSetup hmade fun _ => hfirst).withSource rfl name

/-- Any calls keep it. -/
theorem Agrees.after (h : Agrees made registry) (calls : List Call) :
    Agrees (made ++ registry.setups calls) (registry.after calls) := by
  -- The history and the registry change together, so both are generalized.
  induction calls generalizing made registry with
  | nil => simpa [setups, Registry.after] using h
  | cons call calls ih =>
    have hnext := ih (h.call call)
    rw [List.append_assoc] at hnext
    exact hnext

/-! ## What is never taken back -/

/-- A source that is kept stays the one of its name through a call. -/
theorem lookup_call {name source : String} (hknown : registry.sources.lookup name = some source) (call : Call) :
    (registry.call call).registry.sources.lookup name = some source := by
  have hkept (other text : String) : (registry.withSource other text).sources.lookup name = some source := by
    rw [withSource, List.lookup_append, hknown]
    rfl
  have hstep : Step registry call (registry.call call) := step_call registry call
  generalize registry.call call = effect at hstep
  cases hstep with
  | failed hprepare hfirst => exact hknown
  | setUp hprepare => exact hknown
  | known _ => exact hknown
  | named hnew hconfigured => exact hkept _ _
  | demanded hnew hfirst hprepare => exact hkept _ _

/-- It stays so through any calls. -/
theorem lookup_after {name source : String} (hknown : registry.sources.lookup name = some source)
    (calls : List Call) : (registry.after calls).sources.lookup name = some source := by
  induction calls generalizing registry with
  | nil => exact hknown
  | cons call calls ih => exact ih (lookup_call hknown call)

/-- Once a setup is in force, asking for a source succeeds, and changes nothing but the sources. -/
theorem source_of_configured (hconfigured : registry.isConfigured = true) {call : Call}
    (hsource : call.isExplicit = false) :
    ∃ sources source, registry.call call = ⟨{ registry with sources := sources }, none, .ok (some source)⟩ := by
  have hstep : Step registry call (registry.call call) := step_call registry call
  generalize registry.call call = effect at hstep
  cases hstep with
  | failed hprepare hfirst =>
    rw [hfirst hsource] at hconfigured
    cases hconfigured
  | setUp hprepare => cases hsource
  | known hknown => exact ⟨registry.sources, _, rfl⟩
  | named hnew _ => exact ⟨_, _, rfl⟩
  | demanded hnew hfirst hprepare =>
    rw [hfirst] at hconfigured
    cases hconfigured

/-- So any number of sources makes no setup and leaves the threshold. -/
theorem sources_of_configured (hconfigured : registry.isConfigured = true) {calls : List Call}
    (hsources : ∀ call ∈ calls, call.isExplicit = false) :
    registry.setups calls = [] ∧ (registry.after calls).threshold = registry.threshold := by
  induction calls generalizing registry with
  | nil => exact ⟨rfl, rfl⟩
  | cons call calls ih =>
    obtain ⟨sources, source, hcall⟩ := source_of_configured hconfigured (hsources call List.mem_cons_self)
    have hrest := @ih { registry with sources := sources } hconfigured
      fun other hother => hsources other (List.mem_cons_of_mem call hother)
    rw [setups, Registry.after, List.foldl_cons, hcall]
    exact hrest

/-- A call that fails makes no setup and leaves the state as it was. -/
theorem call_of_error {call : Call} {fault : SetupFault} (hfault : (registry.call call).answer = .error fault) :
    (registry.call call).registry = registry ∧ (registry.call call).made = none := by
  have hstep : Step registry call (registry.call call) := step_call registry call
  generalize registry.call call = effect at hstep hfault
  cases hstep with
  | failed _ _ => exact ⟨rfl, rfl⟩
  | setUp _ => cases hfault
  | known _ => cases hfault
  | named _ _ => cases hfault
  | demanded _ _ _ => cases hfault

/-! ## Setups on demand give way -/

/-- How a state stands to the setups made so far, and to the calls that may follow. -/
structure GivesWay (made : List (Call × Configuration)) (registry : Registry) : Prop extends
    Agrees made registry where
  /-- The source of a name stands below the root, and whoever asks for it later gets the same. -/
  kept : ∀ {name source : String}, registry.sources.lookup name = some source →
    source = rootSource ++ "." ++ name ∧ ∀ calls around,
      (registry.after calls).call (.source around name) = ⟨registry.after calls, none, .ok (some source)⟩
  /-- Asking for a source makes a setup, or fails for want of one, only while none was made. -/
  first : ∀ {call : Call}, call.isExplicit = false →
    (registry.call call).made ≠ none ∨ (∃ fault, (registry.call call).answer = .error fault) → made = []
  /-- Until then, every new name tries the setup again. -/
  retried : ∀ {name : String}, registry.sources.lookup name = none → made = [] →
    ∀ around, (registry.call (.source around name)).made = (prepare around .standard).toOption
  /-- A failed call leaves all as it was. -/
  failed : ∀ {call : Call} {fault : SetupFault}, (registry.call call).answer = .error fault →
    (registry.call call).registry = registry ∧ (registry.call call).made = none
  /-- Sources that are asked for after a setup leave its threshold. -/
  undisturbed : made ≠ [] → ∀ {calls : List Call}, (∀ call ∈ calls, call.isExplicit = false) →
    registry.setups calls = [] ∧ (registry.after calls).threshold = registry.threshold

/-- A new name asked for before any setup makes the setup that the environment comes to. -/
theorem made_of_first (hnew : registry.sources.lookup name = none) (hfirst : registry.isConfigured = false)
    (around : Circumstances) :
    (registry.call (.source around name)).made = (prepare around .standard).toOption := by
  have hneeded : registry.setUpIfNeeded around = registry.setUp around .standard :=
    setUpIfNeeded_of_not_configured hfirst
  rw [call_source]
  cases hprepare : prepare around .standard with
  | error fault => rw [source_of_fault hnew (hneeded.trans (setUp_of_error hprepare))]; rfl
  | ok configuration => rw [source_of_ready hnew (hneeded.trans (setUp_of_ok hprepare))]; rfl

/-- The agreement is all that giving way takes. -/
theorem Agrees.givesWay (h : Agrees made registry) : GivesWay made registry where
  toAgrees := h
  kept := by
    intro name source hlookup
    obtain ⟨before, behind, hsources, _⟩ := List.lookup_eq_some_iff.mp hlookup
    have hmem : (name, source) ∈ registry.sources := by simp [hsources]
    refine ⟨h.named _ hmem, fun calls around => ?_⟩
    rw [call_source, source_of_known (lookup_after hlookup calls)]
    rfl
  first := by
    intro call hsource heffect
    cases hconfigured : registry.isConfigured with
    | false => exact h.made_eq_nil hconfigured
    | true =>
      obtain ⟨sources, source, hcall⟩ := source_of_configured hconfigured hsource
      rw [hcall] at heffect
      simp at heffect
  retried := by
    intro name hnew hmade
    cases hconfigured : registry.isConfigured with
    | false => exact made_of_first hnew hconfigured
    | true => exact absurd hmade (h.configured_iff.mp hconfigured)
  failed := call_of_error
  undisturbed := fun hmade calls hsources => sources_of_configured (h.configured_iff.mpr hmade) hsources

/-- After any calls, failed ones among them, the threshold is that of the last setup, however many sources
are asked for: a setup on demand was made at most once, and only as the first of all. -/
theorem setups_on_demand_give_way (calls : List Call) :
    GivesWay (initial.setups calls) (initial.after calls) :=
  (agrees_initial.after calls).givesWay

/-- The first source fails on an unknown level, so the second makes the setup. The folder of a log file cannot
be made, then a setup on request succeeds, and the last source finds it in force. -/
example :
    let around : Circumstances := ⟨⟨none, none⟩, fun _ => .opens⟩
    (initial.setups
      [.source { around with environment := ⟨some "loud", none⟩ } "cli", .source around "cli",
        .setUp { around with file := fun _ => .noFolder } { Request.standard with logFile := some "logs/cli.log" },
        .setUp around { Request.standard with level := some "debug" }, .source around "main"]).map
      (fun made => (made.1.isExplicit, made.2.levelName)) = [(false, "WARNING"), (true, "DEBUG")] := by
  decide +kernel

end Registry

end SqlInsert.Journal
