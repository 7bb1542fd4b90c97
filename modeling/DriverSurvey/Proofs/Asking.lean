import DriverSurvey.Proofs.Trace
import DriverSurvey.Graphics.Query
import DriverSurvey.Vulkan
import DriverSurvey.Machine.Native
/-!
# Asking — which calls come from where

Acquiring a context builds towards it and makes it current (`acquire_acquires`).  Under an active context a query reads
strings, numbers, errors and entry points, clears and waits (`body_asks`).  It never goes on to another display or
configuration, and its buffers are as long as the token calls for.  The check for Vulkan calls nothing but loaders
(`check_loads`).
-/
namespace DriverSurvey

open Program

/-! ## Kinds of calls -/

/-- Whether the call is a step on the way to a context, or back from an attempt at one. -/
def Request.builds : Request → Bool
  | .defaultDisplay | .openDisplay _ | .bindApi | .chooseConfig _ _ | .createSurface _ _ | .createContext _ _ _
  | .destroySurface _ _ => true
  | _ => false

/-- What a query asks of the driver under an active context; of errors only where they are `checked`. -/
inductive Request.Asks (active : Active) (checked : Prop) : Request → Prop where
  | displayText (which : DisplayText) : Asks active checked (.displayText active.display which)
  | configDepth (channel : Channel) : Asks active checked (.configDepth active.display active.config channel)
  | text (token : UInt32) : Asks active checked (.text token)
  /-- The buffer has room for all that a driver stores for the token. -/
  | integers (token : UInt32) : Asks active checked (.integers token (nativeRoom token))
  | error (h : checked) : Asks active checked .error
  | entryPoint (name : String) : Asks active checked (.entryPoint name)
  | indexedText (token index : UInt32) : Asks active checked (.indexedText token index)
  | clearColor (color : Color) : Asks active checked (.clearColor color)
  | clear (mask : UInt32) : Asks active checked (.clear mask)
  | finish : Asks active checked .finish

theorem Request.Asks.mono {active : Active} {checked checked' : Prop} (h : checked → checked') {q : Request} :
    q.Asks active checked → q.Asks active checked'
  | .displayText which => .displayText which
  | .configDepth channel => .configDepth channel
  | .text token => .text token
  | .integers token => .integers token
  | .error hc => .error (h hc)
  | .entryPoint name => .entryPoint name
  | .indexedText token index => .indexedText token index
  | .clearColor color => .clearColor color
  | .clear mask => .clear mask
  | .finish => .finish

/-- Whether the call clears, or waits for what was cleared. -/
def Request.draws : Request → Bool
  | .clearColor _ | .clear _ | .finish => true
  | _ => false

/-- What a query asks without drawing. -/
def Request.Reads (active : Active) (checked : Prop) (q : Request) : Prop :=
  q.Asks active checked ∧ q.draws = false

/-- What a check for Vulkan asks of a loader. -/
inductive Request.Loads : Request → Prop where
  | openLoader (library : String) : Loads (.openLoader library)
  | findVersionEntry (library : String) : Loads (.findVersionEntry library)
  | loaderVersion (library : String) : Loads (.loaderVersion library)
  | closeLoader (library : String) : Loads (.closeLoader library)

variable {active : Active} {checked : Prop}

theorem Request.Asks.not_builds {q : Request} (h : q.Asks active checked) : q.builds = false := by
  cases h <;> rfl

theorem Request.Loads.not_builds {q : Request} (h : q.Loads) : q.builds = false := by
  cases h <;> rfl

theorem only_ask {P : Request → Prop} {q : Request} (h : P q) : (ask q).Only P :=
  ⟨h, fun _ => trivial⟩

/-! ## Acquiring -/

/-- What acquiring calls: steps towards a context, and one that makes it current. -/
def Request.Acquires (q : Request) : Prop :=
  q.builds = true ∨ ∃ display surface context, q = .makeCurrent display surface context

theorem openDisplay_acquires : Runtime.openDisplay.Only Request.Acquires := by
  refine (only_ask (.inl rfl)).bind fun display? => ?_
  cases display? with
  | none => exact only_pure _ _
  | some display => exact (only_ask (.inl rfl)).bind fun version? => by cases version? <;> exact only_pure _ _

theorem attempt_acquires (display : Display) (version : EsVersion) :
    (Runtime.attempt display version).Only Request.Acquires := by
  refine (only_ask (.inl rfl)).bind fun _ => (only_ask (.inl rfl)).bind fun config? => ?_
  cases config? with
  | none => exact only_pure _ _
  | some config =>
    refine (only_ask (.inl rfl)).bind fun surface? => ?_
    cases surface? with
    | none => exact only_pure _ _
    | some surface =>
      refine (only_ask (.inl rfl)).bind fun context? => ?_
      cases context? with
      | none => exact (only_ask (.inl rfl)).bind fun _ => only_pure _ _
      | some context => exact only_pure _ _

theorem attemptAll_acquires (display : Display) : ∀ (versions : List EsVersion) (last : Fault),
    (Runtime.attemptAll display last versions).Only Request.Acquires
  | [], _ => only_pure _ _
  | version :: rest, _ => by
    refine (attempt_acquires display version).bind fun attempted => ?_
    cases attempted with
    | ok bound => exact only_pure _ _
    | error fault => exact attemptAll_acquires display rest fault

theorem activate_acquires (display : Display) (bound : Bound) :
    (Runtime.activate display bound).Only Request.Acquires :=
  (only_ask (.inr ⟨_, _, _, rfl⟩)).bind fun current => by cases current <;> exact only_pure _ _

theorem bindContext_acquires (display : Display) : (Runtime.bindContext display).Only Request.Acquires := by
  refine (attemptAll_acquires display _ _).bind fun created => ?_
  cases created with
  | ok bound => exact activate_acquires display bound
  | error fault => exact only_pure _ _

/-- **Acquiring makes no call but those that build a context and make it current.** -/
theorem acquire_acquires : ∀ runtime : Runtime, runtime.acquire.Only Request.Acquires
  | .ready display bound => activate_acquires display bound
  | .displayBound display => bindContext_acquires display
  | .uninitialized => by
    refine openDisplay_acquires.bind fun opened => ?_
    cases opened with
    | ok display => exact bindContext_acquires display
    | error fault => exact only_pure _ _

/-! ## Asking under a context -/

theorem readIntegers_reads {token : UInt32} {buffer : List Int32} (h : nativeRoom token = buffer.length) :
    (readIntegers token buffer).Only (Request.Reads active checked) :=
  (only_ask (by rw [← h]; exact ⟨.integers token, rfl⟩)).bind fun _ => only_pure _ _

theorem readInteger_reads {token : UInt32} (h : nativeRoom token = 1) :
    (readInteger token).Only (Request.Reads active checked) :=
  (readIntegers_reads h).bind fun _ => only_pure _ _

theorem readIndexed_reads : ∀ (count index : Nat), (readIndexed index count).Only (Request.Reads active checked)
  | 0, _ => trivial
  | count + 1, index => by
    refine (only_ask ⟨.indexedText _ _, rfl⟩).bind fun name? => ?_
    cases name? with
    | none => exact readIndexed_reads count (index + 1)
    | some name => exact (readIndexed_reads count (index + 1)).bind fun _ => only_pure _ _

theorem readIndexedExtensions_reads : readIndexedExtensions.Only (Request.Reads active checked) := by
  refine (readInteger_reads rfl).bind fun count => (only_ask ⟨.entryPoint _, rfl⟩).bind fun found => ?_
  cases found with
  | false => exact only_pure _ _
  | true => exact readIndexed_reads _ _

theorem readExtensions_reads : readExtensions.Only (Request.Reads active checked) := by
  refine (only_ask ⟨.text _, rfl⟩).bind fun raw? => ?_
  cases raw? with
  | none => exact readIndexedExtensions_reads
  | some raw =>
    dsimp only
    split
    · exact readIndexedExtensions_reads
    · exact only_pure _ _

theorem readAtiMemory_reads (names : List String) : (readAtiMemory names).Only (Request.Reads active checked) := by
  unfold readAtiMemory
  split
  · refine (readIntegers_reads rfl).bind fun free => ?_
    dsimp only
    split <;> exact only_pure _ _
  · exact only_pure _ _

theorem readMemory_reads (names : List String) : (readMemory names).Only (Request.Reads active checked) := by
  unfold readMemory
  split
  · refine (readInteger_reads rfl).bind fun total => (readInteger_reads rfl).bind fun current => ?_
    split
    · exact only_pure _ _
    · exact readAtiMemory_reads names
  · exact readAtiMemory_reads names

theorem discardErrors_reads (h : checked) : ∀ limit : Nat, (discardErrors limit).Only (Request.Reads active checked)
  | 0 => trivial
  | limit + 1 => by
    refine (only_ask ⟨.error h, rfl⟩).bind fun code => ?_
    split
    · exact only_pure _ _
    · exact discardErrors_reads h limit

theorem readGuarded_reads {token : UInt32} (h : nativeRoom token = 1) (hc : checked) :
    (readGuarded token).Only (Request.Reads active checked) := by
  refine (discardErrors_reads hc _).bind fun _ => (readInteger_reads h).bind fun value =>
    (only_ask ⟨.error hc, rfl⟩).bind fun code => ?_
  split <;> exact only_pure _ _

theorem clearRounds_asks : ∀ (count round : Nat), (clearRounds round count).Only (Request.Asks active checked)
  | 0, _ => trivial
  | count + 1, round =>
    (only_ask (.clearColor _)).bind fun _ => (only_ask (.clear _)).bind fun _ => (only_ask .finish).bind fun _ =>
      clearRounds_asks count (round + 1)

theorem readText_reads (token : UInt32) : (readText token).Only (Request.Reads active checked) :=
  (only_ask ⟨.text token, rfl⟩).bind fun _ => only_pure _ _

theorem readFormat_reads : (readFormat active).Only (Request.Reads active checked) := by
  have depth (channel : Channel) : (readDepth active channel).Only (Request.Reads active checked) :=
    (only_ask ⟨.configDepth channel, rfl⟩).bind fun _ => only_pure _ _
  exact (depth _).bind fun _ => (depth _).bind fun _ => (depth _).bind fun _ => (depth _).bind fun _ =>
    (depth _).bind fun _ => (depth _).bind fun _ => only_pure _ _

/-- **A query but the benchmark draws nothing.**  One query alone looks at errors. -/
theorem body_reads : ∀ {query : Query}, query ≠ .benchmark → ∀ active : Active,
    (query.body active).Only (Request.Reads active (query = .maxComputeInvocations))
  | .ensure, _, _ | .active, _, _ | .contextVersion, _, _ => only_pure _ _
  | .renderer, _, _ | .vendor, _, _ | .version, _, _ => readText_reads _
  | .displayVendor, _, _ | .displayVersion, _, _ => (only_ask ⟨.displayText _, rfl⟩).bind fun _ => only_pure _ _
  | .extensions, _, _ => readExtensions_reads
  | .configuration, _, _ => readFormat_reads
  | .maxTextureSize, _, _ => (readInteger_reads rfl).bind fun _ => only_pure _ _
  | .maxComputeInvocations, _, _ =>
    (readGuarded_reads rfl rfl).bind fun read => by cases read <;> exact only_pure _ _
  | .memory, _, _ => readExtensions_reads.bind fun _ => readMemory_reads _
  | .benchmark, h, _ => absurd rfl h

/-- **A query makes no call but those it may ask under its context.** -/
theorem body_asks (query : Query) (active : Active) :
    (query.body active).Only (Request.Asks active (query = .maxComputeInvocations)) := by
  by_cases h : query = .benchmark
  · subst h
    exact (clearRounds_asks _ _).bind fun _ => only_pure _ _
  · exact (body_reads h active).mono fun _ hq => hq.1

/-! ## Looking for Vulkan -/

theorem openFirst_loads : ∀ names : List String, (Vulkan.openFirst names).Only Request.Loads
  | [] => trivial
  | name :: rest => by
    refine (only_ask (.openLoader name)).bind fun opened => ?_
    split
    · exact only_pure _ _
    · exact openFirst_loads rest

theorem inspect_loads (library : String) : (Vulkan.inspect library).Only Request.Loads := by
  refine (only_ask (.findVersionEntry library)).bind fun found => ?_
  split
  · exact (only_ask (.loaderVersion library)).bind fun _ => only_pure _ _
  · exact only_pure _ _

/-- **The check for Vulkan calls nothing but loaders.** -/
theorem check_loads (names : List String) : (Vulkan.check names).Only Request.Loads := by
  refine (openFirst_loads names).bind fun library? => ?_
  cases library? with
  | none => exact only_pure _ _
  | some library =>
    exact (inspect_loads library).bind fun _ => (only_ask (.closeLoader library)).bind fun _ => only_pure _ _

end DriverSurvey
