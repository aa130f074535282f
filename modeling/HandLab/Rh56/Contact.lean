import HandLab.Rh56.Types

/-!
# The contact stop

`contact_limited_target`, `pop_contact_relief_target`, `_reset_contact_stop`,
`_observe_contact_angle` and `_observe_contact_force` of
`src/rh56_driver/pc_direct_control.py` (lines 1254–1465). The channels are
independent of each other, so each loop over them is one definition for a
channel `i`.

The lemmas say which members each operation leaves alone.
-/

namespace HandLab.Rh56

open HandLab.Lib Double PyFloat

variable {δ : Type*} [PyFloat δ]

/-! ## Limiting a target -/

/-- `_contact_latched[index] or _contact_candidate_count[index] > 0`. -/
def ContactState.isActive (contact : ContactState δ) (i : Fin 6) : Bool :=
  contact.latched i || decide (0 < contact.candidateCount i)

/-- `opening_intent` (lines 1274–1277). -/
def openingIntent (previousRequested : Option (Channels δ)) (requested : Channels δ)
    (i : Fin 6) : Bool :=
  match previousRequested with
  | none => false
  | some previous => lt (requested i) (sub (previous i) (ofRat 1e-12))

/-- `release_requested` (lines 1281–1287). -/
def releaseRequested (config : ControlConfig δ) (control : RH56PcDirectControl δ)
    (requested : Channels δ) (i : Fin 6) : Bool :=
  match control.contact.holdTarget i with
  | none => false
  | some hold =>
    le (requested i) (sub hold config.contactStop.releaseOpenDelta) ||
      (le hold config.contactStop.releaseOpenDelta &&
        openingIntent control.lastRequestedTargetNormalized requested i)

/-- The branch of the loop that ends the hold of a channel. -/
def releases (config : ControlConfig δ) (control : RH56PcDirectControl δ) (requested : Channels δ)
    (allowRelease : Bool) (i : Fin 6) : Bool :=
  config.contactStop.enabled && control.contact.isActive i && allowRelease &&
    releaseRequested config control requested i

/-- The target that `contact_limited_target` returns (lines 1254–1295). -/
def contactLimitedTarget (config : ControlConfig δ) (control : RH56PcDirectControl δ)
    (requested : Channels δ) (allowRelease : Bool) : Channels δ := fun i =>
  if config.contactStop.enabled && control.contact.isActive i &&
      !releases config control requested allowRelease i then
    match control.contact.holdTarget i with
    | none => requested i
    | some hold => pyMin (requested i) hold
  else requested i

/-- What `contact_limited_target` writes (lines 1288–1293). -/
def releaseContacts (config : ControlConfig δ) (control : RH56PcDirectControl δ)
    (requested : Channels δ) (allowRelease : Bool) : RH56PcDirectControl δ :=
  let released := releases config control requested allowRelease
  let contact := control.contact
  { control with
    contact := { contact with
      latched := fun i => if released i then false else contact.latched i
      candidateCount := fun i => if released i then 0 else contact.candidateCount i
      holdTarget := fun i => if released i then none else contact.holdTarget i
      lastClosingRequestNs := fun i =>
        if released i then -1 else contact.lastClosingRequestNs i } }

/-! ## Relief -/

/-- The relief of one channel in `pop_contact_relief_target`. -/
def reliefTarget (contact : ContactState δ) (requested : Channels δ) : Channels δ := fun i =>
  if contact.isActive i then
    match contact.holdTarget i with
    | none => requested i
    | some hold => if isFinite hold then pyMin (requested i) (pyMax zero hold) else requested i
  else requested i

/-- `pop_contact_relief_target` (lines 1297–1327). -/
def popContactReliefTarget (control : RH56PcDirectControl δ) :
    Option (Channels δ) × RH56PcDirectControl δ :=
  match control.lastCommandNormalized with
  | none => (none, control)
  | some requested =>
    if !control.contact.reliefPending || control.state ≠ .hold then (none, control)
    else
      let relief := reliefTarget control.contact requested
      let popped := { control with contact := { control.contact with reliefPending := false } }
      if ∃ i, control.contact.isActive i = true then
        if ∃ i, lt (relief i) (sub (requested i) (ofRat 1e-12)) = true then (some relief, popped)
        else (none, popped)
      else (none, popped)

/-! ## Resetting and observing -/

/-- `_reset_contact_stop` (lines 1329–1348). -/
def resetContactStop (contact : ContactState δ) (feedback : PcDirectFeedback δ) :
    ContactState δ :=
  { contact with
    forceBaseline := some feedback.loadOrForceRawCount
    forceDelta := fun _ => zero
    lastAngle := some feedback.positionNormalized
    angleProgress := fun _ => zero
    angleGeneration := contact.angleGeneration + 1
    forceAngleGeneration := contact.angleGeneration + 1
    candidateCount := fun _ => 0
    holdTarget := fun _ => none
    latched := fun _ => false
    lastClosingRequestNs := fun _ => -1
    reliefPending := false
    lastClosureForceGeneration := contact.forceGeneration - 1
    closureSinceForce := fun _ => zero }

/-- `_observe_contact_angle` (lines 1367–1372). -/
def observeContactAngle (contact : ContactState δ) (current : Channels δ) : ContactState δ :=
  { contact with
    angleProgress := match contact.lastAngle with
      | none => contact.angleProgress
      | some last => fun i => sub (current i) (last i)
    lastAngle := some current
    angleGeneration := contact.angleGeneration + 1 }

/-- The conditions of one channel in the loop of `_observe_contact_force`
    (lines 1406–1434). -/
structure ContactEvidence where
  closureSeen : Bool
  first : Bool
  confirmed : Bool

/-- `closure_seen`, `first_candidate` and `confirmed_candidate`. -/
def contactEvidence (policy : ContactStop δ) (contact : ContactState δ)
    (requested measured : Channels δ) (i : Fin 6) : ContactEvidence :=
  let closingGap := sub (requested i) (measured i)
  let closureSeen := decide (0 ≤ contact.lastClosingRequestNs i)
  let stalled := le (contact.angleProgress i) policy.maximumStallProgress
  let onsetForceSeen := le (policy.forceDeltaOnset i) (contact.forceDelta i)
  let releaseForceSeen := le (policy.forceDeltaRelease i) (contact.forceDelta i)
  { closureSeen
    first := decide (contact.candidateCount i = 0) && closureSeen && onsetForceSeen &&
      (le policy.minimumClosingGap closingGap ||
        le (measured i) (add (requested i) policy.minimumClosingGap))
    confirmed := decide (0 < contact.candidateCount i) && releaseForceSeen && stalled }

/-- The members of one channel that the loop body writes. -/
structure ContactChannel (δ : Type*) where
  forceBaseline : δ
  candidateCount : ℤ
  holdTarget : Option δ
  latched : Bool

/-- The loop body of `_observe_contact_force` on one channel
    (lines 1404–1464). -/
def observeContactChannel (policy : ContactStop δ) (contact : ContactState δ)
    (requested measured baseline currentForce lastCommand : Channels δ) (i : Fin 6) :
    ContactChannel δ :=
  let evidence := contactEvidence policy contact requested measured i
  let count := contact.candidateCount i
  if contact.latched i then ⟨baseline i, count, contact.holdTarget i, true⟩
  else if evidence.first || evidence.confirmed then
    { forceBaseline := baseline i
      candidateCount := count + 1
      holdTarget :=
        if evidence.first then
          some (pyMax zero (sub (pyMin (lastCommand i) (measured i)) policy.reliefMargin))
        else contact.holdTarget i
      latched := decide (policy.consecutiveSamples ≤ count + 1) }
  else
    { forceBaseline :=
        if evidence.closureSeen then baseline i
        else add (mul (sub (ofRat 1) policy.baselineAlpha) (baseline i))
          (mul policy.baselineAlpha (currentForce i))
      candidateCount := 0
      holdTarget := none
      latched := false }

/-- The loop of `_observe_contact_force` (lines 1398–1465), entered with
    everything it needs present. -/
def observeContactChannels (config : ControlConfig δ) (control : RH56PcDirectControl δ)
    (contact : ContactState δ) (requested measured baseline currentForce : Channels δ) :
    ContactState δ :=
  let policy := config.contactStop
  let channel := observeContactChannel policy contact requested measured baseline currentForce
    (control.lastCommandNormalized.getD measured)
  let counted := fun i =>
    !contact.latched i && ((contactEvidence policy contact requested measured i).first ||
      (contactEvidence policy contact requested measured i).confirmed)
  { contact with
    forceBaseline := some fun i => (channel i).forceBaseline
    candidateCount := fun i => (channel i).candidateCount
    holdTarget := fun i => (channel i).holdTarget
    latched := fun i => (channel i).latched
    reliefPending := contact.reliefPending ||
      (decide (control.state = .hold) && decide (∃ i, counted i = true))
    forceAngleGeneration := contact.angleGeneration }

/-- `_observe_contact_force` (lines 1374–1465). -/
def observeContactForce (config : ControlConfig δ) (control : RH56PcDirectControl δ)
    (currentForce : Channels δ) : ContactState δ :=
  let contact := { control.contact with
    forceGeneration := control.contact.forceGeneration + 1
    closureSinceForce := fun _ => zero }
  match contact.forceBaseline with
  | none => { contact with forceBaseline := some currentForce }
  | some baseline =>
    let contact := { contact with
      forceDelta := fun i => abs (sub (currentForce i) (baseline i)) }
    match control.lastRequestedTargetNormalized, contact.lastAngle with
    | some requested, some measured =>
      if !config.contactStop.enabled || (control.state ≠ .active && control.state ≠ .hold) ||
          contact.angleGeneration ≤ contact.forceAngleGeneration then contact
      else observeContactChannels config control contact requested measured baseline currentForce
    | _, _ => contact

/-! ## What stays -/

/-- Popping a relief target changes `_contact_relief_pending` alone. -/
theorem popContactReliefTarget_frame (control : RH56PcDirectControl δ) :
    ∃ pending, (popContactReliefTarget control).2 =
      { control with contact := { control.contact with reliefPending := pending } } := by
  unfold popContactReliefTarget
  split
  · exact ⟨_, rfl⟩
  · split
    · exact ⟨_, rfl⟩
    · extract_lets relief popped
      split_ifs
      · exact ⟨false, rfl⟩
      · exact ⟨false, rfl⟩
      · exact ⟨false, rfl⟩

/-- Every force observation empties the closure counter. -/
@[simp] theorem observeContactForce_closure (config : ControlConfig δ)
    (control : RH56PcDirectControl δ) (currentForce : Channels δ) :
    (observeContactForce config control currentForce).closureSinceForce = fun _ => zero := by
  unfold observeContactForce
  extract_lets contact
  split
  · rfl
  · extract_lets contact'
    split
    · split_ifs
      · rfl
      · rfl
    · rfl

/-- Limiting a target never moves it further closed. -/
theorem contactLimitedTarget_le [Field δ] [LinearOrder δ] [IsStrictOrderedRing δ] [Exact δ]
    (config : ControlConfig δ) (control : RH56PcDirectControl δ) (requested : Channels δ)
    (allowRelease : Bool) (i : Fin 6) :
    contactLimitedTarget config control requested allowRelease i ≤ requested i := by
  unfold contactLimitedTarget
  split_ifs
  · split
    · exact le_rfl
    · rw [Exact.pyMin_eq]
      exact min_le_left _ _
  · exact le_rfl

end HandLab.Rh56
