import LandingGuidance.Proofs.Operations

/-!
# What is read

The parts of the task read the store at a few properties only. Two stores that agree there give the
same settings, the same approach and the same cycle of guidance. A cycle reads the position on the
circle only and the route distance off it, and the pitch and the throttle only to begin the flare.
-/

namespace LandingGuidance

variable {α : Type}

/-! ### Agreement of two stores -/

namespace Store

/-- Two stores hold the same at some properties. -/
def Agree (s t : Store α) (properties : List Property) : Prop :=
  ∀ p ∈ properties, s.get? p = t.get? p

/-- A value that somebody puts elsewhere makes no difference. -/
theorem agree_put (s : Store α) {properties : List Property} {path : String}
    (elsewhere : ∀ p ∈ properties, p.path ≠ path) (value : Option (Value α)) :
    s.Agree (s.put path value) properties := by
  intro p member
  rw [get?_put, if_neg (Ne.symm (elsewhere p member))]

theorem agree_append {s t : Store α} {first second : List Property} :
    s.Agree t (first ++ second) ↔ s.Agree t first ∧ s.Agree t second :=
  List.forall_mem_append

namespace Agree

variable {s t : Store α} {properties : List Property}

theorem text (agree : s.Agree t properties) {p : Property} (member : p ∈ properties) :
    s.text p = t.text p := by
  rw [Store.text, Store.text, agree p member]

theorem has (agree : s.Agree t properties) {p : Property} (member : p ∈ properties) :
    s.has p = t.has p := by
  rw [Store.has, Store.has, agree p member]

variable [Scalar α]

theorem number (agree : s.Agree t properties) {p : Property} (member : p ∈ properties) :
    s.number p = t.number p := by
  rw [Store.number, Store.number, agree p member]

theorem flag (agree : s.Agree t properties) {p : Property} (member : p ∈ properties) :
    s.flag p = t.flag p := by
  rw [Store.flag, Store.flag, agree p member]

theorem number? (agree : s.Agree t properties) {p : Property} (member : p ∈ properties) :
    s.number? p = t.number? p := by
  rw [Store.number?, Store.number?, agree.has member, agree.number member]

end Agree

end Store

/-! ### Settings, home and saved state -/

namespace Settings

/-- The properties that may be tuned in flight. -/
def tunables : List Property :=
  [.landGlideslope, .landFinalLegExtension, .landAltitudeBias, .landFlarePitch, .landFlareSeconds]

/-- The properties that shape an approach, besides home. -/
def shaping : List Property :=
  [.landLateralOffset, .landFinalLegExtension, .landTurnRadius, .landDirection]

variable [Scalar α] {s t : Store α} (settings : Settings α)

theorem retuned_congr (agree : s.Agree t tunables) : settings.retuned s = settings.retuned t := by
  have read {p : Property} (member : p ∈ tunables) := agree.number? member
  rw [retuned, retuned, read (p := .landGlideslope) (by decide),
    read (p := .landFinalLegExtension) (by decide), read (p := .landAltitudeBias) (by decide),
    read (p := .landFlarePitch) (by decide), read (p := .landFlareSeconds) (by decide)]

theorem reshaped_congr (agree : s.Agree t shaping) : settings.reshaped s = settings.reshaped t := by
  rw [reshaped, reshaped, reshapedRadius, reshapedRadius,
    agree.number? (p := .landLateralOffset) (by decide),
    agree.number? (p := .landFinalLegExtension) (by decide),
    agree.number? (p := .landTurnRadius) (by decide), agree.has (p := .landDirection) (by decide),
    agree.text (p := .landDirection) (by decide)]

theorem reshapingWarnings_congr (agree : s.Agree t shaping) :
    settings.reshapingWarnings s = settings.reshapingWarnings t := by
  rw [reshapingWarnings, reshapingWarnings, agree.number? (p := .landTurnRadius) (by decide)]

end Settings

def Home.properties : List Property := [.homeLatitude, .homeLongitude, .homeAzimuth]

theorem Home.ofStore_congr [Scalar α] {s t : Store α} (agree : s.Agree t properties) :
    Home.ofStore s = Home.ofStore t := by
  rw [ofStore, ofStore, agree.number (p := .homeLatitude) (by decide),
    agree.number (p := .homeLongitude) (by decide), agree.number (p := .homeAzimuth) (by decide)]

theorem Saved.capture_congr {s t : Store α} {scope : Scope}
    (agree : s.Agree t scope.properties) : capture s scope = capture t scope := by
  rw [capture, capture]
  congr 1
  apply List.map_congr_left
  intro p member
  rw [agree p member]

theorem LandingTask.takeOver_congr [TrigScalar α] {s t : Store α} {settings settings' : Settings α}
    (approachSpeed : settings.approachSpeed = settings'.approachSpeed)
    (flaps : settings.flaps = settings'.flaps) (agree : s.Agree t [.landApproachSpeed]) :
    takeOver settings s = takeOver settings' t := by
  rw [takeOver, takeOver, agree.number? (p := .landApproachSpeed) (by decide), approachSpeed, flaps]

/-! ### A cycle of guidance -/

/-- The settings that a cycle of guidance takes into account are the same. -/
structure Settings.SameTuning (settings other : Settings α) : Prop where
  glideslope : settings.glideslope = other.glideslope
  altitudeBias : settings.altitudeBias = other.altitudeBias
  flarePitch : settings.flarePitch = other.flarePitch
  flareSeconds : settings.flareSeconds = other.flareSeconds

theorem Settings.SameTuning.refl (settings : Settings α) : settings.SameTuning settings :=
  ⟨rfl, rfl, rfl, rfl⟩

theorem Settings.SameTuning.symm {settings other : Settings α}
    (tuning : settings.SameTuning other) : other.SameTuning settings :=
  ⟨tuning.glideslope.symm, tuning.altitudeBias.symm, tuning.flarePitch.symm,
    tuning.flareSeconds.symm⟩

/-- The readings that every cycle takes into account are the same. -/
structure Telemetry.SameMotion (t other : Telemetry α) : Prop where
  circling : t.circling = other.circling
  altitude : t.altitude = other.altitude
  groundSpeed : t.groundSpeed = other.groundSpeed
  elevator : t.elevator = other.elevator
  time : t.time = other.time
  targetAltitude : t.targetAltitude = other.targetAltitude

namespace Guidance

variable [TrigScalar α] {g : Guidance α} {settings settings' : Settings α}
  {approach approach' : Approach α} {t t' : Telemetry α}

theorem vertical_congr (tuning : settings.SameTuning settings')
    (radius : approach.radius = approach'.radius)
    (finalLeg : approach.finalLeg = approach'.finalLeg) (motion : t.SameMotion t')
    (l : Lateral α) : g.vertical settings approach t l = g.vertical settings' approach' t' l := by
  rw [vertical, vertical, bias, bias, tuning.glideslope, tuning.altitudeBias, radius, finalLeg,
    motion.elevator, motion.altitude, motion.targetAltitude]

/-- The pitch and the throttle are read to begin the flare, and not otherwise. -/
theorem touchdown_congr (tuning : settings.SameTuning settings') (motion : t.SameMotion t')
    {l : Lateral α}
    (references : (g.flare.isNone && (g.touchdown settings t l).flare.isSome) = true →
      t.throttle = t'.throttle ∧ t.targetPitch = t'.targetPitch) :
    g.touchdown settings t l = g.touchdown settings' t' l := by
  simp only [touchdown, tuning.flarePitch, tuning.flareSeconds, motion.groundSpeed,
    motion.time] at references ⊢
  cases begun : g.flare with
  | some flare => rfl
  | none =>
    rw [begun] at references
    by_cases begins : secondsToTouchdown l.distanceToGo t'.groundSpeed ≤ settings'.flareSeconds
    · simp only [if_pos begins] at references ⊢
      obtain ⟨throttle, pitch⟩ := references rfl
      rw [throttle, pitch]
    · simp only [if_neg begins]

theorem cycle_congr (tuning : settings.SameTuning settings')
    (radius : approach.radius = approach'.radius)
    (finalLeg : approach.finalLeg = approach'.finalLeg) (motion : t.SameMotion t')
    (lateral : g.lateral approach t = g.lateral approach' t')
    (references : (g.cycle settings approach t).flareBegins = true →
      t.throttle = t'.throttle ∧ t.targetPitch = t'.targetPitch) :
    g.cycle settings approach t = g.cycle settings' approach' t' := by
  have vertical := g.vertical_congr tuning radius finalLeg motion (g.lateral approach t)
  have touchdown := g.touchdown_congr tuning motion references
  rw [cycle, cycle, vertical, touchdown, motion.circling, lateral]

end Guidance

namespace Telemetry

/-- The properties that every cycle reads, besides the tunables. -/
def properties : List Property :=
  [.navigationMode, .positionAltitude, .groundSpeed, .pilotElevator, .timestamp, .targetAltitude]

/-- The properties that tell how far the route is: the route distance counts while it is valid. -/
def routeProperties [Scalar α] (s : Store α) : List Property :=
  .routeDistanceValid :: (if s.flag Property.routeDistanceValid then [.routeDistance] else [])

/-- The properties that tell the distance to go: the position on the circle, and the route off
it. -/
def lateralProperties [Scalar α] (s : Store α) : List Property :=
  if (ofStore s).circling then [.positionLatitude, .positionLongitude] else routeProperties s

/-- The properties that a flare takes its references from. -/
def references : List Property := [.throttle, .targetPitch]

variable [TrigScalar α] {s t : Store α}

theorem sameMotion_ofStore (agree : s.Agree t properties) :
    (ofStore s).SameMotion (ofStore t) where
  circling := by
    change (s.text _ == _) = (t.text _ == _)
    rw [agree.text (p := .navigationMode) (by decide)]
  altitude := agree.number (p := .positionAltitude) (by decide)
  groundSpeed := agree.number (p := .groundSpeed) (by decide)
  elevator := agree.number (p := .pilotElevator) (by decide)
  time := agree.number (p := .timestamp) (by decide)
  targetAltitude := agree.number (p := .targetAltitude) (by decide)

theorem routeDistance_congr (agree : s.Agree t (routeProperties s)) :
    (ofStore s).routeDistance = (ofStore t).routeDistance := by
  unfold routeProperties at agree
  have valid := agree.flag (p := .routeDistanceValid) List.mem_cons_self
  simp only [ofStore, ← valid]
  split
  next now => rw [agree.number (p := .routeDistance) (by simp [now])]
  · rfl

end Telemetry

namespace Guidance

variable [TrigScalar α] {g : Guidance α}

/-- On the circle, the distance to go is counted with the capture of the cycle itself. -/
theorem lateral_distanceToGo_of_circling (g : Guidance α) (approach : Approach α) {t : Telemetry α}
    (circling : t.circling = true) :
    (g.lateral approach t).distanceToGo =
      approach.distanceToGo (approach.fix t.position) (g.lateral approach t).circleCaptured := by
  unfold lateral
  rw [if_pos circling]

theorem lateral_distanceToGo_of_not_circling (g : Guidance α) (approach : Approach α)
    {t : Telemetry α} (off : ¬t.circling = true) :
    (g.lateral approach t).distanceToGo = t.routeDistance.getD g.distanceToGo := by
  unfold lateral
  rw [if_neg off]

/-- On the circle the distance to go follows from the fix, and off it from the route distance. -/
theorem lateral_eq_of_fix {approach approach' : Approach α} {t t' : Telemetry α}
    (circling : t.circling = t'.circling) (radius : approach.radius = approach'.radius)
    (finalLeg : approach.finalLeg = approach'.finalLeg)
    (fix : t.circling = true → approach.fix t.position = approach'.fix t'.position)
    (routeDistance : ¬t.circling = true → t.routeDistance = t'.routeDistance) :
    g.lateral approach t = g.lateral approach' t' := by
  unfold lateral Approach.distanceToGo
  rw [← circling]
  by_cases on : t.circling = true
  · rw [if_pos on, if_pos on, fix on, radius, finalLeg]
  · rw [if_neg on, if_neg on, routeDistance on]

theorem lateral_congr {approach : Approach α} {s t : Store α}
    (motion : (Telemetry.ofStore s).SameMotion (Telemetry.ofStore t))
    (agree : s.Agree t (Telemetry.lateralProperties s)) :
    g.lateral approach (Telemetry.ofStore s) = g.lateral approach (Telemetry.ofStore t) := by
  unfold Telemetry.lateralProperties at agree
  apply lateral_eq_of_fix motion.circling rfl rfl
  · intro on
    rw [if_pos on] at agree
    rw [Telemetry.ofStore, Telemetry.ofStore, agree.number (p := .positionLatitude) (by decide),
      agree.number (p := .positionLongitude) (by decide)]
  · intro off
    rw [if_neg off] at agree
    exact Telemetry.routeDistance_congr agree

end Guidance

end LandingGuidance
