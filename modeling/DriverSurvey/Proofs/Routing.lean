import Mathlib.Data.List.TakeWhile
import DriverSurvey.Proofs.Errors
/-!
# Routing — a call through native libraries is answered as by the script itself

Below a call of a survey lie numbers, attribute lists and octets.  Where the script is plain, so that no handle is the
null pointer and no text has a zero octet, nothing is lost on the way down and back up (`route_run`), and a program does
over native drivers what it does over the script (`via_run`).
-/
namespace DriverSurvey

open Program

/-! ## Plain scripts -/

/-- Whether the offer is refused or a handle, with its flag and its count in order. -/
def ConfigOffer.isPlain : ConfigOffer → Bool
  | .refused => true
  | .chosen address => address != 0
  | .spelled _ _ _ => false

/-- Whether there is no zero among the octets. -/
def zeroFree (octets : List UInt8) : Bool :=
  octets.all (· != 0)

/-- A script whose handles are no null pointers, whose configurations are handles, and whose texts have no zero octet
in them. -/
structure Script.Plain (script : Script) : Prop where
  display : script.display ≠ some 0
  configs (version : EsVersion) : (script.configs.get version).isPlain = true
  surfaces (version : EsVersion) : script.surfaces.get version ≠ some 0
  contexts (version : EsVersion) : script.contexts.get version ≠ some 0
  displayText (which : DisplayText) : (script.displayText which).all zeroFree = true
  texts (token : UInt32) : (script.text token).all zeroFree = true

/-! ## Reading replies back -/

theorem ofAddress?_getD {kind : HandleKind} : ∀ {address : Option UInt64}, address ≠ some 0 →
    (Handle.ofAddress? (address.getD 0) : Option (Handle kind)) = address.map (⟨·⟩)
  | none, _ => rfl
  | some address, h => by
    have hne : (address == 0) = false := beq_eq_false_iff_ne.2 fun hzero => h (congrArg some hzero)
    rw [Option.getD_some, Handle.ofAddress?, hne]
    rfl

theorem config?_reply : ∀ {offer : ConfigOffer}, offer.isPlain = true → offer.reply.config? = offer.config?
  | .refused, _ => rfl
  | .chosen address, h => by
    have hne : (address == 0) = false := by simpa [ConfigOffer.isPlain] using h
    show Handle.ofAddress? address = _
    rw [Handle.ofAddress?, hne]
    rfl

/-- **A text without a zero octet ends at its end.** -/
theorem map_terminatedText : ∀ {octets : Option (List UInt8)}, octets.all zeroFree = true →
    octets.map terminatedText = octets.map fun t => String.ofList (decodeLossy t)
  | none, _ => rfl
  | some octets, h => by
    have hall : octets.takeWhile (· != 0) = octets := List.takeWhile_eq_self_iff.2 (List.all_eq_true.1 h)
    rw [Option.map_some, terminatedText, hall]
    rfl

theorem chosenVersion_attributes (wanted : FormatRequest) : chosenVersion wanted.attributes = wanted.version := by
  obtain ⟨version⟩ := wanted
  cases version <;> rfl

theorem contextVersion_attributes (version : EsVersion) : contextVersion version.contextAttributes = version := by
  cases version <;> rfl

theorem ofToken?_token (channel : Channel) : Channel.ofToken? channel.token = some channel := by
  cases channel <;> rfl

/-! ## Calls -/

/-- A call that goes to the graphics driver, with no more room than a driver fills. -/
def Request.Routed : Request → Prop
  | .integers token room => room = nativeRoom token
  | request => request.isLoader = false

/-- Both drivers are there. -/
def Bindings.Complete (drivers : Bindings) : Prop :=
  drivers.egl.isSome = true ∧ drivers.gles.isSome = true

variable {drivers : Bindings} {shelf : Shelf} {loaders : LoaderShelf} {α β : Type}

theorem callEgl_run (h : drivers.Complete) {absent : α} {entry : Entry} {read : entry.Reply → α} {d d' : DriverState}
    {a : α} (hread : read (d.serveEntry entry).1 = a) (hstate : (d.serveEntry entry).2 = d') :
    ∃ events, (drivers.callEgl absent entry read).run (DriverState.serveNative shelf) d = ⟨a, d', events⟩ := by
  obtain ⟨egl, hegl⟩ := Option.isSome_iff_exists.1 h.1
  subst hread hstate
  rw [Bindings.callEgl, hegl]
  exact ⟨_, rfl⟩

theorem callGles_run (h : drivers.Complete) {absent : α} {entry : Entry} {read : entry.Reply → α} {d d' : DriverState}
    {a : α} (hread : read (d.serveEntry entry).1 = a) (hstate : (d.serveEntry entry).2 = d') :
    ∃ events, (drivers.callGles absent entry read).run (DriverState.serveNative shelf) d = ⟨a, d', events⟩ := by
  obtain ⟨gles, hgles⟩ := Option.isSome_iff_exists.1 h.2
  subst hread hstate
  rw [Bindings.callGles, hgles]
  exact ⟨_, rfl⟩

/-- **A call routed through native drivers is answered as by the script itself**, if the script is plain. -/
theorem route_run (h : drivers.Complete) {q : Request} (hq : q.Routed) {d : DriverState} (hd : d.script.Plain) :
    ∃ events, (drivers.route q).run (DriverState.serveNative shelf) d =
      ⟨(d.serve loaders q).1, (d.serve loaders q).2, events⟩ := by
  cases q with
  | defaultDisplay => exact callEgl_run h (ofAddress?_getD hd.display) rfl
  | openDisplay display =>
    refine callEgl_run h ?_ ?_ <;> rw [DriverState.serveEntry, DriverState.serve] <;> cases d.script.connection <;> rfl
  | bindApi => exact callEgl_run h rfl rfl
  | chooseConfig display wanted =>
    refine callEgl_run h ?_ ?_ <;> rw [DriverState.serveEntry, chosenVersion_attributes, DriverState.serve]
    exact config?_reply (hd.configs wanted.version)
  | createSurface display config => exact callEgl_run h (ofAddress?_getD (hd.surfaces d.chosen)) rfl
  | createContext display config version =>
    refine callEgl_run h ?_ ?_ <;> rw [DriverState.serveEntry, contextVersion_attributes, DriverState.serve]
    exact ofAddress?_getD (hd.contexts version)
  | destroySurface display surface => exact callEgl_run h rfl rfl
  | makeCurrent display surface context => exact callEgl_run h rfl rfl
  | displayText display which =>
    refine callEgl_run h ?_ rfl
    have h := map_terminatedText (hd.displayText which)
    cases which <;> exact h
  | configDepth display config channel =>
    refine callEgl_run h ?_ ?_ <;> rw [DriverState.serveEntry, DriverState.serve, ofToken?_token] <;>
      cases hdepth : d.script.depth channel <;> simp [hdepth]
  | text token => exact callGles_run h (map_terminatedText (hd.texts token)) rfl
  | integers token room =>
    obtain rfl : room = nativeRoom token := hq
    obtain ⟨room, hroom⟩ : ∃ room, nativeRoom token = room + 1 := by
      rw [nativeRoom]
      split <;> exact ⟨_, rfl⟩
    rw [hroom]
    refine callGles_run h ?_ rfl
    rw [DriverState.serveEntry, hroom, List.take_take, Nat.min_self, DriverState.serve]
  | error => exact callGles_run h rfl rfl
  | entryPoint name =>
    rw [Bindings.route]
    split
    · -- there is no entry point whose name has a zero in it
      rename_i hzero
      refine ⟨[], ?_⟩
      have hname : (name == indexedTextEntry) = false := by
        rw [beq_eq_false_iff_ne]
        rintro rfl
        exact absurd hzero (by decide)
      rw [DriverState.serve, Script.resolves, hname]
      rfl
    · exact callEgl_run h rfl rfl
  | indexedText token index => exact callEgl_run h rfl rfl
  | clearColor color => exact callGles_run h rfl rfl
  | clear mask => exact callGles_run h rfl rfl
  | finish => exact callGles_run h rfl rfl
  | openLoader library => cases hq
  | findVersionEntry library => cases hq
  | loaderVersion library => cases hq
  | closeLoader library => cases hq

theorem Request.Asks.routed {active : Active} {checked : Prop} {q : Request} (h : q.Asks active checked) :
    q.Routed := by
  cases h <;> rfl

/-! ## Programs -/

theorem serve_script (q : Request) (d : DriverState) : (d.serve loaders q).2.script = d.script := by
  cases q with
  | error => exact d.takeError_script
  | _ => rfl

/-- **No survey changes the script.** -/
theorem run_script {α : Type} : ∀ (p : Program Calls α) (d : DriverState),
    (p.run (DriverState.serve loaders) d).state.script = d.script
  | .done _, _ => rfl
  | .call q next, d => (run_script (next _) _).trans (serve_script q d)

/-- Played over native drivers and over the script, from one driver, the programs end in values that `same` relates,
and in one driver. -/
def Program.Agree (shelf : Shelf) (drivers : Bindings) (loaders : LoaderShelf) (same : α → β → Prop)
    (p : Program Calls α) (q : Program Calls β) : Prop :=
  ∀ d : DriverState, d.script.Plain →
    let native := (p.via drivers.route).run (DriverState.serveNative shelf) d
    let direct := q.run (DriverState.serve loaders) d
    same native.value direct.value ∧ native.state = direct.state ∧ direct.state.script = d.script

theorem agree_pure {same : α → β → Prop} {a : α} {b : β} (h : same a b) :
    Program.Agree shelf drivers loaders same (pure a) (pure b) :=
  fun _ _ => ⟨h, rfl, rfl⟩

theorem Program.Agree.bind {γ δ : Type} {same : α → β → Prop} {same' : γ → δ → Prop} {p : Program Calls α}
    {q : Program Calls β} {f : α → Program Calls γ} {g : β → Program Calls δ} (h : p.Agree shelf drivers loaders same q)
    (hf : ∀ a b, same a b → (f a).Agree shelf drivers loaders same' (g b)) :
    (p >>= f).Agree shelf drivers loaders same' (q >>= g) := by
  intro d hd
  obtain ⟨hvalue, hstate, hscript⟩ := h d hd
  rw [via_bind, run_bind, run_bind, hstate]
  obtain ⟨hvalue', hstate', hscript'⟩ := hf _ _ hvalue _ (by rwa [hscript])
  exact ⟨hvalue', hstate', hscript'.trans hscript⟩

theorem Program.Agree.mono {same same' : α → β → Prop} {p : Program Calls α} {q : Program Calls β}
    (h : p.Agree shelf drivers loaders same q) (hs : ∀ a b, same a b → same' a b) :
    p.Agree shelf drivers loaders same' q := by
  intro d hd
  obtain ⟨hvalue, hstate, hscript⟩ := h d hd
  exact ⟨hs _ _ hvalue, hstate, hscript⟩

/-- **A program whose calls are all routed does over native drivers what it does over the script.** -/
theorem agree_of_routed (h : drivers.Complete) : ∀ {p : Program Calls α}, p.Only Request.Routed →
    p.Agree shelf drivers loaders Eq p
  | .done _, _, _, _ => ⟨rfl, rfl, rfl⟩
  | .call q next, hp, d, hd => by
    obtain ⟨events, hrun⟩ : ∃ events, (drivers.route q).run (DriverState.serveNative shelf) d = _ :=
      route_run h hp.1 hd
    obtain ⟨hvalue, hstate, hscript⟩ := agree_of_routed h (hp.2 (d.serve loaders q).1) (d.serve loaders q).2
      (by rwa [serve_script])
    have hplayed : ((Program.call q next).via drivers.route).run (DriverState.serveNative shelf) d = _ :=
      run_bind _ (fun reply => (next reply).via drivers.route) (drivers.route q) d
    rw [hplayed, hrun]
    exact ⟨hvalue, hstate, hscript.trans (serve_script q d)⟩

/-- **Looking for Vulkan leaves both drivers as they are**, whatever is found. -/
theorem agree_of_loads {p : Program Calls α} (h : p.Only Request.Loads) :
    p.Agree shelf drivers loaders (fun _ _ => True) p := by
  intro d _
  have hnative : (p.via drivers.route).Only fun q => ∀ d, (DriverState.serveNative shelf q d).2 = d :=
    h.via fun q hq => by cases hq <;> exact ⟨fun _ => rfl, fun _ => trivial⟩
  have hdirect : p.Only fun q => ∀ d, (DriverState.serve loaders q d).2 = d :=
    h.mono fun q hq => by cases hq <;> exact fun _ => rfl
  exact ⟨trivial, (run_still hnative d).trans (run_still hdirect d).symm,
    congrArg DriverState.script (run_still hdirect d)⟩

theorem Request.Acquires.routed {q : Request} (h : q.Acquires) : q.Routed := by
  rcases h with h | ⟨display, surface, context, rfl⟩
  · cases q <;> first | rfl | cases h
  · rfl

/-- **All that a query calls goes to the graphics driver.** -/
theorem query_routed (query : Query) (runtime : Runtime) : (query.survey runtime).Only Request.Routed := by
  refine ((acquire_acquires runtime).mono fun _ h => h.routed).bind fun acquired => ?_
  obtain ⟨result, after⟩ := acquired
  cases result with
  | ok active => exact ((body_asks query active).mono fun _ h => h.routed).bind fun _ => only_pure _ _
  | error fault => exact only_pure _ _

end DriverSurvey
