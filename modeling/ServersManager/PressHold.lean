/-
Module: ServersManager.PressHold
Purpose: The button that must be held before it confirms, in any timed sequence of
  events.
Trusted boundary: none
Main exports:
  PressHoldButton, ButtonEvent, PressHoldButton.start, PressHoldButton.cancel, Scene,
  Scene.step, ButtonRun, ConfirmPermitted, Careful, confirms_once_held, repeat_confirms_again
-/
import Mathlib.Logic.Function.Basic
import ServersManager.Library.Trace

namespace ServersManager

open Library

/-! ### `components/PressHoldButton.tsx` -/

def holdDurationMs : Nat := 1500

/-- A timer of the window, with the press it was set in. -/
structure Timer where
  handle : Nat
  due : Nat
  press : Nat
deriving Repr, DecidableEq

/-- A mounted or unmounted button, its timer reference, and the timers of the window. -/
structure PressHoldButton where
  disabled : Bool
  mounted : Bool
  isHolding : Bool
  timeoutRef : Option Nat
  timers : List Timer
  nextHandle : Nat
  now : Nat

/-- An event that reaches the button, a change of its `disabled` property, the passing of
time, or the event loop's turn to run a timer.  A keydown is repeated while its key stays
held. -/
inductive ButtonEvent where
  | pointerDown
  | pointerUp
  | pointerLeave
  | keyDown (key : String) (repeated : Bool)
  | keyUp (key : String)
  | blur
  | unmount
  | setDisabled (disabled : Bool)
  | elapse (milliseconds : Nat)
  | fire (handle : Nat)
deriving Repr, DecidableEq

/-- `event.key === 'Enter' || event.key === ' '`. -/
def holdsOn (key : String) : Bool :=
  key == "Enter" || key == " "

namespace PressHoldButton

def mount (disabled : Bool) : PressHoldButton :=
  { disabled := disabled, mounted := true, isHolding := false, timeoutRef := none
    timers := [], nextHandle := 0, now := 0 }

section Handlers

variable (button : PressHoldButton)

def clearTimeout (handle : Nat) : PressHoldButton :=
  { button with timers := button.timers.filter fun timer => timer.handle ≠ handle }

def start (press : Nat) : PressHoldButton :=
  if button.disabled ∨ button.timeoutRef ≠ none then button
  else
    { button with
      isHolding := true
      timeoutRef := some button.nextHandle
      timers := { handle := button.nextHandle, due := button.now + holdDurationMs
                  press := press } :: button.timers
      nextHandle := button.nextHandle + 1 }

def cancel : PressHoldButton :=
  match button.timeoutRef with
  | some handle => { button.clearTimeout handle with timeoutRef := none, isHolding := false }
  | none => { button with isHolding := false }

/-- The cleanup of the effect leaves the reference as it is. -/
def unmount : PressHoldButton :=
  match button.timeoutRef with
  | some handle => { button.clearTimeout handle with mounted := false }
  | none => { button with mounted := false }

/-- The handlers of a mounted button. -/
def handle (press : Nat) : ButtonEvent → PressHoldButton
  | .pointerDown => button.start press
  | .pointerUp | .pointerLeave | .blur => button.cancel
  | .keyDown key _ => if holdsOn key then button.start press else button
  | .keyUp key => if holdsOn key then button.cancel else button
  | .unmount => button.unmount
  | .setDisabled disabled => { button with disabled := disabled }
  | .elapse _ | .fire _ => button

/-- The callback of a timer: the press it confirms. -/
def confirm (timer : Timer) : PressHoldButton × Option Nat :=
  ({ button.clearTimeout timer.handle with timeoutRef := none, isHolding := false },
    some timer.press)

/-- A timer runs once it is due, and no earlier. -/
def react (press : Nat) : ButtonEvent → PressHoldButton × Option Nat
  | .elapse milliseconds => ({ button with now := button.now + milliseconds }, none)
  | .fire handle =>
      match button.timers.find? fun timer =>
        timer.handle = handle ∧ timer.due ≤ button.now with
      | some timer => button.confirm timer
      | none => (button, none)
  | event => (if button.mounted then button.handle press event else button, none)

end Handlers

end PressHoldButton

/-! ### Presses -/

/-- How many presses there have been, and the press each held key is in. -/
structure Presses where
  count : Nat
  held : String → Option Nat

/-- The press an event belongs to.  A pointer goes down once in a press; a press of a key
begins with the first keydown and lasts until the key is released or goes down anew. -/
def Presses.next (presses : Presses) : ButtonEvent → Nat × Presses
  | .pointerDown => (presses.count, { presses with count := presses.count + 1 })
  | .keyDown key repeated =>
      match presses.held key, repeated with
      | some press, true => (press, presses)
      | _, _ =>
          (presses.count,
            { count := presses.count + 1
              held := Function.update presses.held key (some presses.count) })
  | .keyUp key => (presses.count, { presses with held := Function.update presses.held key none })
  | _ => (presses.count, presses)

structure Scene where
  button : PressHoldButton
  presses : Presses

/-- What an onlooker sees of an event: the time, the `disabled` property, and the press
that is confirmed, if any. -/
structure Observation where
  event : ButtonEvent
  press : Nat
  time : Nat
  disabled : Bool
  confirms : Option Nat
deriving Repr, DecidableEq

namespace Scene

def mount (disabled : Bool) : Scene :=
  { button := .mount disabled, presses := { count := 0, held := fun _ => none } }

variable (scene : Scene) (event : ButtonEvent)

def observe : Observation :=
  { event := event
    press := (scene.presses.next event).1
    time := scene.button.now
    disabled := scene.button.disabled
    confirms := (scene.button.react (scene.presses.next event).1 event).2 }

def step : Scene :=
  { button := (scene.button.react (scene.presses.next event).1 event).1
    presses := (scene.presses.next event).2 }

end Scene

/-- The runs of a button in which every event is allowed where it happens. -/
inductive ButtonRun (allowed : List Observation → Scene → ButtonEvent → Prop)
    (disabled : Bool) : List Observation → Scene → Prop
  | mount : ButtonRun allowed disabled [] (Scene.mount disabled)
  | step {log : List Observation} {scene : Scene} (run : ButtonRun allowed disabled log scene)
      (event : ButtonEvent) (allows : allowed log scene event) :
      ButtonRun allowed disabled (log ++ [scene.observe event]) (scene.step event)

/-! ### What a confirmation needs -/

/-- The event presses the button. -/
def ButtonEvent.IsDown : ButtonEvent → Prop
  | .pointerDown => True
  | .keyDown key _ => holdsOn key = true
  | _ => False

/-- The event is a release, or the pointer, the focus or the button goes. -/
def ButtonEvent.Interrupts : ButtonEvent → Prop
  | .pointerUp | .pointerLeave | .blur | .unmount => True
  | .keyUp key => holdsOn key = true
  | _ => False

/-- By a time, a press has been held long enough, from a down event of its own on. -/
def HeldUntil (log : List Observation) (press time : Nat) : Prop :=
  ∃ before down since, log = before ++ down :: since ∧ down.event.IsDown ∧
    down.press = press ∧ down.time + holdDurationMs ≤ time ∧
    ∀ seen ∈ since, ¬ seen.event.Interrupts

/-- A confirmation is of a press that has been held and not been confirmed, and the button
is not disabled. -/
def ConfirmPermitted (log : List Observation) (seen : Observation) : Prop :=
  ∀ press, seen.confirms = some press →
    HeldUntil log press seen.time ∧ seen.disabled = false ∧
      ∀ earlier ∈ log, earlier.confirms ≠ some press

/-- A repeated keydown whose press has been confirmed starts no hold, and the button is not
disabled during a hold. -/
def Careful (log : List Observation) (scene : Scene) : ButtonEvent → Prop
  | .keyDown key repeated =>
      repeated = true → holdsOn key = true → scene.button.disabled = false →
        scene.button.timeoutRef = none →
          ∀ seen ∈ log, seen.confirms ≠ some (scene.presses.next (.keyDown key repeated)).1
  | .setDisabled true => scene.button.timeoutRef = none
  | _ => True

/-! ### Runs -/

theorem Presses.next_count (presses : Presses) (event : ButtonEvent) :
    presses.count ≤ (presses.next event).2.count := by
  fun_cases Presses.next presses event with
  | case1 => exact Nat.le_succ _
  | case2 => exact Nat.le_refl _
  | case3 => exact Nat.le_succ _
  | case4 => exact Nat.le_refl _
  | case5 => exact Nat.le_refl _

/-- What holds of a pending timer: it is the one referred to, the button is there and
enabled, and the timer's press has been held since the timer was set. -/
structure Pending (log : List Observation) (scene : Scene) (timer : Timer) : Prop where
  referred : scene.button.timeoutRef = some timer.handle
  mounted : scene.button.mounted = true
  enabled : scene.button.disabled = false
  held : HeldUntil log timer.press timer.due
  unconfirmed : ∀ seen ∈ log, seen.confirms ≠ some timer.press
  known : timer.press < scene.presses.count

structure RunInvariant (log : List Observation) (scene : Scene) : Prop where
  grounded : Grounded ConfirmPermitted log
  pending : ∀ timer ∈ scene.button.timers, Pending log scene timer
  heldKnown : ∀ key press, scene.presses.held key = some press → press < scene.presses.count
  confirmedKnown : ∀ seen ∈ log, ∀ press, seen.confirms = some press →
    press < scene.presses.count

theorem RunInvariant.mount (disabled : Bool) : RunInvariant [] (Scene.mount disabled) := by
  constructor
  · exact Grounded.empty
  · intro timer member
    cases member
  · intro key press held
    cases held
  · intro seen member
    cases member

theorem HeldUntil.append {log : List Observation} {press time : Nat} {seen : Observation}
    (held : HeldUntil log press time) (calm : ¬ seen.event.Interrupts) :
    HeldUntil (log ++ [seen]) press time := by
  obtain ⟨before, down, since, rfl, isDown, same, long, quiet⟩ := held
  refine ⟨before, down, since ++ [seen], by simp, isDown, same, long, ?_⟩
  intro other member
  rcases List.mem_append.mp member with earlier | last
  · exact quiet other earlier
  · cases List.mem_singleton.mp last
    exact calm

theorem Presses.next_held {presses : Presses} {event : ButtonEvent}
    (known : ∀ key press, presses.held key = some press → press < presses.count)
    (key : String) (press : Nat) (held : (presses.next event).2.held key = some press) :
    press < (presses.next event).2.count := by
  revert held
  fun_cases Presses.next presses event with
  | case1 => exact fun held => Nat.lt_succ_of_lt (known key press held)
  | case2 => exact fun held => known key press held
  | case3 pressed =>
      intro held
      dsimp only at held
      by_cases same : key = pressed
      · rw [same, Function.update_self] at held
        cases held
        exact Nat.lt_succ_self _
      · rw [Function.update_of_ne same] at held
        exact Nat.lt_succ_of_lt (known key press held)
  | case4 released =>
      intro held
      dsimp only at held
      by_cases same : key = released
      · rw [same, Function.update_self] at held
        cases held
      · rw [Function.update_of_ne same] at held
        exact known key press held
  | case5 => exact fun held => known key press held

/-- A down event belongs to a new press, or it is a repeated keydown of a known one. -/
theorem Presses.next_of_isDown (presses : Presses) {event : ButtonEvent}
    (isDown : event.IsDown) :
    (presses.next event).1 = presses.count ∧ (presses.next event).2.count = presses.count + 1 ∨
      ∃ key press, event = .keyDown key true ∧ presses.held key = some press ∧
        presses.next event = (press, presses) := by
  cases event with
  | pointerDown => exact .inl ⟨rfl, rfl⟩
  | keyDown key repeated =>
      cases held : presses.held key with
      | none =>
          left
          simp only [next, held, and_self]
      | some press =>
          cases repeated with
          | false =>
              left
              simp only [next, held, and_self]
          | true =>
              right
              refine ⟨key, press, rfl, held, ?_⟩
              simp only [next, held]
  | _ => exact False.elim isDown

section Step

variable {log : List Observation} {scene : Scene}

/-- An event that confirms nothing, after which every timer is in order. -/
theorem RunInvariant.silent (inv : RunInvariant log scene) {event : ButtonEvent}
    (silent : (scene.observe event).confirms = none)
    (pending : ∀ timer ∈ (scene.step event).button.timers,
      Pending (log ++ [scene.observe event]) (scene.step event) timer) :
    RunInvariant (log ++ [scene.observe event]) (scene.step event) := by
  constructor
  · apply inv.grounded.append
    intro press confirms
    rw [silent] at confirms
    cases confirms
  · exact pending
  · exact Presses.next_held inv.heldKnown
  · intro seen member press confirms
    rcases List.mem_append.mp member with earlier | last
    · exact Nat.lt_of_lt_of_le (inv.confirmedKnown seen earlier press confirms)
        (scene.presses.next_count event)
    · cases List.mem_singleton.mp last
      rw [silent] at confirms
      cases confirms

theorem unconfirmed_append {event : ButtonEvent} {press : Nat}
    (silent : (scene.observe event).confirms = none)
    (unconfirmed : ∀ seen ∈ log, seen.confirms ≠ some press) :
    ∀ seen ∈ log ++ [scene.observe event], seen.confirms ≠ some press := by
  intro seen member
  rcases List.mem_append.mp member with earlier | last
  · exact unconfirmed seen earlier
  · cases List.mem_singleton.mp last
    rw [silent]
    exact nofun

/-- An event that confirms nothing, sets no timer, and interrupts only where no timer is
left. -/
theorem RunInvariant.quiet (inv : RunInvariant log scene) {event : ButtonEvent}
    (silent : (scene.observe event).confirms = none)
    (calm : ∀ timer ∈ (scene.step event).button.timers,
      timer ∈ scene.button.timers ∧ ¬ event.Interrupts ∧
        (scene.step event).button.timeoutRef = scene.button.timeoutRef ∧
        (scene.step event).button.mounted = scene.button.mounted ∧
        (scene.step event).button.disabled = false) :
    RunInvariant (log ++ [scene.observe event]) (scene.step event) := by
  apply inv.silent silent
  intro timer member
  obtain ⟨before, notInterrupted, sameRef, sameMounted, enabled⟩ := calm timer member
  have pending := inv.pending timer before
  constructor
  · rw [sameRef, pending.referred]
  · rw [sameMounted, pending.mounted]
  · exact enabled
  · exact pending.held.append notInterrupted
  · exact unconfirmed_append silent pending.unconfirmed
  · exact Nat.lt_of_lt_of_le pending.known (scene.presses.next_count event)

/-- Nothing is pending where no timer is referred to. -/
theorem RunInvariant.timers_eq_nil (inv : RunInvariant log scene)
    (unreferred : scene.button.timeoutRef = none) : scene.button.timers = [] := by
  apply List.eq_nil_iff_forall_not_mem.mpr
  intro timer member
  have referred := (inv.pending timer member).referred
  rw [unreferred] at referred
  cases referred

/-- The timer referred to is the only one. -/
theorem RunInvariant.clearTimeout (inv : RunInvariant log scene) {handle : Nat}
    (referred : scene.button.timeoutRef = some handle) :
    (scene.button.clearTimeout handle).timers = [] := by
  apply List.filter_eq_nil_iff.mpr
  intro timer member
  have same := (inv.pending timer member).referred
  rw [referred] at same
  cases same
  simp

theorem RunInvariant.cancel_timers (inv : RunInvariant log scene) :
    scene.button.cancel.timers = [] := by
  unfold PressHoldButton.cancel
  cases referred : scene.button.timeoutRef with
  | none => exact inv.timers_eq_nil referred
  | some handle => exact inv.clearTimeout referred

theorem RunInvariant.unmount_timers (inv : RunInvariant log scene) :
    scene.button.unmount.timers = [] := by
  unfold PressHoldButton.unmount
  cases referred : scene.button.timeoutRef with
  | none => exact inv.timers_eq_nil referred
  | some handle => exact inv.clearTimeout referred

theorem RunInvariant.unmounted_timers (inv : RunInvariant log scene)
    (unmounted : scene.button.mounted = false) : scene.button.timers = [] := by
  apply List.eq_nil_iff_forall_not_mem.mpr
  intro timer member
  have mounted := (inv.pending timer member).mounted
  rw [unmounted] at mounted
  cases mounted

/-- A down event starts a hold for a press that has not been confirmed, or changes
nothing but the presses. -/
theorem RunInvariant.pressed (inv : RunInvariant log scene) {event : ButtonEvent}
    (isDown : event.IsDown) (calm : ¬ event.Interrupts) (careful : Careful log scene event)
    (mounted : scene.button.mounted = true)
    (starts : scene.button.react (scene.presses.next event).1 event =
      (scene.button.start (scene.presses.next event).1, none)) :
    RunInvariant (log ++ [scene.observe event]) (scene.step event) := by
  have silent : (scene.observe event).confirms = none := congrArg Prod.snd starts
  have button : (scene.step event).button =
      scene.button.start (scene.presses.next event).1 := congrArg Prod.fst starts
  by_cases idle : scene.button.disabled = true ∨ scene.button.timeoutRef ≠ none
  · rw [PressHoldButton.start, if_pos idle] at button
    apply inv.quiet silent
    rw [button]
    intro timer member
    exact ⟨member, calm, rfl, rfl, (inv.pending timer member).enabled⟩
  · obtain ⟨enabled, unreferred⟩ := not_or.mp idle
    rw [Bool.not_eq_true] at enabled
    rw [not_not] at unreferred
    rw [PressHoldButton.start, if_neg idle, inv.timers_eq_nil unreferred] at button
    have unconfirmed : ∀ seen ∈ log,
        seen.confirms ≠ some (scene.presses.next event).1 := by
      rcases scene.presses.next_of_isDown isDown with
        ⟨fresh, -⟩ | ⟨key, press, rfl, -, -⟩
      · intro seen member confirms
        rw [fresh] at confirms
        exact Nat.lt_irrefl _ (inv.confirmedKnown seen member _ confirms)
      · exact careful rfl isDown enabled unreferred
    have known : (scene.presses.next event).1 < (scene.presses.next event).2.count := by
      rcases scene.presses.next_of_isDown isDown with
        ⟨fresh, more⟩ | ⟨key, press, -, held, same⟩
      · omega
      · rw [same]
        exact inv.heldKnown key press held
    apply inv.silent silent
    rw [button]
    intro timer member
    cases List.mem_singleton.mp member
    constructor
    · rw [button]
    · rw [button]
      exact mounted
    · rw [button]
      exact enabled
    · exact ⟨log, _, [], rfl, isDown, rfl, Nat.le_refl _, nofun⟩
    · exact unconfirmed_append silent unconfirmed
    · exact known

theorem HeldUntil.mono {press time later : Nat} (held : HeldUntil log press time)
    (order : time ≤ later) : HeldUntil log press later := by
  obtain ⟨before, down, since, split, isDown, same, long, quiet⟩ := held
  exact ⟨before, down, since, split, isDown, same, Nat.le_trans long order, quiet⟩

/-- A due timer confirms its press. -/
theorem RunInvariant.fired (inv : RunInvariant log scene) (handle : Nat) :
    RunInvariant (log ++ [scene.observe (.fire handle)]) (scene.step (.fire handle)) := by
  cases found : scene.button.timers.find? fun timer =>
      timer.handle = handle ∧ timer.due ≤ scene.button.now with
  | none =>
      have reacts : scene.button.react (scene.presses.next (.fire handle)).1 (.fire handle) =
          (scene.button, none) := by
        rw [PressHoldButton.react, found]
      have button : (scene.step (.fire handle)).button = scene.button :=
        congrArg Prod.fst reacts
      apply inv.quiet (congrArg Prod.snd reacts)
      rw [button]
      intro timer member
      exact ⟨member, not_false, rfl, rfl, (inv.pending timer member).enabled⟩
  | some timer =>
      have reacts : scene.button.react (scene.presses.next (.fire handle)).1 (.fire handle) =
          scene.button.confirm timer := by
        rw [PressHoldButton.react, found]
      have confirmed : (scene.observe (.fire handle)).confirms = some timer.press :=
        congrArg Prod.snd reacts
      have button : (scene.step (.fire handle)).button =
          (scene.button.confirm timer).1 := congrArg Prod.fst reacts
      have pending := inv.pending timer (List.mem_of_find?_eq_some found)
      have isDue : timer.due ≤ scene.button.now := by
        have due := List.find?_some found
        exact (of_decide_eq_true due).2
      constructor
      · apply inv.grounded.append
        intro press confirms
        rw [confirmed] at confirms
        cases confirms
        exact ⟨pending.held.mono isDue, pending.enabled, pending.unconfirmed⟩
      · intro other member
        rw [button, PressHoldButton.confirm, inv.clearTimeout pending.referred] at member
        cases member
      · exact inv.heldKnown
      · intro seen member press confirms
        rcases List.mem_append.mp member with earlier | last
        · exact inv.confirmedKnown seen earlier press confirms
        · cases List.mem_singleton.mp last
          rw [confirmed] at confirms
          cases confirms
          exact pending.known

/-- An event that leaves no timer. -/
theorem RunInvariant.cleared (inv : RunInvariant log scene) {event : ButtonEvent}
    (silent : (scene.observe event).confirms = none)
    (empty : (scene.step event).button.timers = []) :
    RunInvariant (log ++ [scene.observe event]) (scene.step event) := by
  apply inv.silent silent
  intro timer member
  rw [empty] at member
  cases member

/-- An event that a mounted button takes for itself. -/
theorem react_mounted {button : PressHoldButton} {press : Nat} {event : ButtonEvent}
    (mounted : button.mounted = true) (noTime : ∀ milliseconds, event ≠ .elapse milliseconds)
    (noTimer : ∀ handle, event ≠ .fire handle) :
    button.react press event = (button.handle press event, none) := by
  cases event with
  | elapse milliseconds => exact absurd rfl (noTime milliseconds)
  | fire handle => exact absurd rfl (noTimer handle)
  | _ => exact congrArg (fun taken => (taken, none)) (if_pos mounted)

/-- An event of a mounted button whose handler leaves no timer. -/
theorem RunInvariant.handled (inv : RunInvariant log scene) {event : ButtonEvent}
    (mounted : scene.button.mounted = true)
    (noTime : ∀ milliseconds, event ≠ .elapse milliseconds)
    (noTimer : ∀ handle, event ≠ .fire handle)
    (empty : (scene.button.handle (scene.presses.next event).1 event).timers = []) :
    RunInvariant (log ++ [scene.observe event]) (scene.step event) := by
  have reacts : scene.button.react (scene.presses.next event).1 event = _ :=
    react_mounted mounted noTime noTimer
  apply inv.cleared (congrArg Prod.snd reacts)
  rw [← empty]
  exact congrArg (fun taken => taken.1.timers) reacts

/-- An event that a mounted button does not listen to. -/
theorem RunInvariant.ignored (inv : RunInvariant log scene) {event : ButtonEvent}
    (calm : ¬ event.Interrupts)
    (reacts : scene.button.react (scene.presses.next event).1 event = (scene.button, none)) :
    RunInvariant (log ++ [scene.observe event]) (scene.step event) := by
  have button : (scene.step event).button = scene.button := congrArg Prod.fst reacts
  apply inv.quiet (congrArg Prod.snd reacts)
  rw [button]
  intro timer member
  exact ⟨member, calm, rfl, rfl, (inv.pending timer member).enabled⟩

theorem RunInvariant.elapsed (inv : RunInvariant log scene) (milliseconds : Nat) :
    RunInvariant (log ++ [scene.observe (.elapse milliseconds)])
      (scene.step (.elapse milliseconds)) := by
  apply inv.quiet rfl
  intro timer member
  exact ⟨member, not_false, rfl, rfl, (inv.pending timer member).enabled⟩

/-- Nothing reaches a button that is gone. -/
theorem RunInvariant.unmounted (inv : RunInvariant log scene) {event : ButtonEvent}
    (gone : scene.button.mounted = false)
    (noTime : ∀ milliseconds, event ≠ .elapse milliseconds)
    (noTimer : ∀ handle, event ≠ .fire handle) :
    RunInvariant (log ++ [scene.observe event]) (scene.step event) := by
  have absent : ¬ scene.button.mounted = true := by
    rw [gone]
    exact Bool.false_ne_true
  have reacts : scene.button.react (scene.presses.next event).1 event =
      (scene.button, none) := by
    cases event with
    | elapse milliseconds => exact absurd rfl (noTime milliseconds)
    | fire handle => exact absurd rfl (noTimer handle)
    | _ => exact congrArg (fun taken => (taken, none)) (if_neg absent)
  apply inv.cleared (congrArg Prod.snd reacts)
  exact (congrArg (fun taken => taken.1.timers) reacts).trans (inv.unmounted_timers gone)

/-- The step lemma: one case for each event of a mounted button. -/
theorem RunInvariant.step (inv : RunInvariant log scene) (event : ButtonEvent)
    (careful : Careful log scene event) :
    RunInvariant (log ++ [scene.observe event]) (scene.step event) := by
  cases mounted : scene.button.mounted with
  | false =>
      cases event with
      | elapse milliseconds => exact inv.elapsed milliseconds
      | fire handle => exact inv.fired handle
      | _ => exact inv.unmounted mounted nofun nofun
  | true =>
      cases event with
      | elapse milliseconds => exact inv.elapsed milliseconds
      | fire handle => exact inv.fired handle
      | pointerDown =>
          exact inv.pressed trivial not_false careful mounted
            (react_mounted mounted nofun nofun)
      | pointerUp => exact inv.handled mounted nofun nofun inv.cancel_timers
      | pointerLeave => exact inv.handled mounted nofun nofun inv.cancel_timers
      | blur => exact inv.handled mounted nofun nofun inv.cancel_timers
      | unmount => exact inv.handled mounted nofun nofun inv.unmount_timers
      | keyDown key repeated =>
          have reacts : scene.button.react (scene.presses.next (.keyDown key repeated)).1
              (.keyDown key repeated) = _ := react_mounted mounted nofun nofun
          by_cases holds : holdsOn key = true
          · rw [PressHoldButton.handle, if_pos holds] at reacts
            exact inv.pressed holds not_false careful mounted reacts
          · rw [PressHoldButton.handle, if_neg holds] at reacts
            exact inv.ignored not_false reacts
      | keyUp key =>
          by_cases holds : holdsOn key = true
          · have empty : (scene.button.handle (scene.presses.next (.keyUp key)).1
                (.keyUp key)).timers = [] := by
              rw [PressHoldButton.handle, if_pos holds]
              exact inv.cancel_timers
            exact inv.handled mounted nofun nofun empty
          · have reacts : scene.button.react (scene.presses.next (.keyUp key)).1
                (.keyUp key) = _ := react_mounted mounted nofun nofun
            rw [PressHoldButton.handle, if_neg holds] at reacts
            exact inv.ignored holds reacts
      | setDisabled disabled =>
          cases disabled with
          | true => exact inv.handled mounted nofun nofun (inv.timers_eq_nil careful)
          | false =>
              have reacts : scene.button.react (scene.presses.next (.setDisabled false)).1
                  (.setDisabled false) = _ := react_mounted mounted nofun nofun
              have silent : (scene.observe (.setDisabled false)).confirms = none :=
                congrArg Prod.snd reacts
              have button : (scene.step (.setDisabled false)).button =
                  { scene.button with disabled := false } := congrArg Prod.fst reacts
              apply inv.quiet silent
              rw [button]
              intro timer member
              exact ⟨member, not_false, rfl, rfl, rfl⟩

end Step

/-- In a careful run every confirmation follows on a hold of its full length, the button
being enabled, and no press is confirmed twice. -/
theorem confirms_once_held {disabled : Bool} {log : List Observation} {scene : Scene}
    (run : ButtonRun Careful disabled log scene) : Grounded ConfirmPermitted log := by
  have invariant : RunInvariant log scene := by
    induction run with
    | mount => exact .mount disabled
    | step run event careful inductionHypothesis => exact inductionHypothesis.step event careful
  exact invariant.grounded

/-! ### Two presses -/

/-- The observations and the scene after some events. -/
def Scene.play (log : List Observation) (scene : Scene) :
    List ButtonEvent → List Observation × Scene
  | [] => (log, scene)
  | event :: events => (scene.step event).play (log ++ [scene.observe event]) events

theorem ButtonRun.play {disabled : Bool} {log : List Observation} {scene : Scene}
    (run : ButtonRun (fun _ _ _ => True) disabled log scene) (events : List ButtonEvent) :
    ButtonRun (fun _ _ _ => True) disabled (scene.play log events).1
      (scene.play log events).2 := by
  induction events generalizing log scene with
  | nil => exact run
  | cons event events inductionHypothesis =>
      exact inductionHypothesis (.step run event trivial)

/-- A key is held down: the browser repeats its keydown after the button has confirmed. -/
def heldKeyEvents : List ButtonEvent :=
  [.keyDown "Enter" false, .elapse 1500, .fire 0, .elapse 20, .keyDown "Enter" true,
    .elapse 1500, .fire 1]

def heldKeyLog : List Observation :=
  ((Scene.mount false).play [] heldKeyEvents).1

/-- A button is disabled during a hold. -/
def disabledHoldEvents : List ButtonEvent :=
  [.pointerDown, .elapse 1000, .setDisabled true, .elapse 500, .fire 0]

def disabledHoldLog : List Observation :=
  ((Scene.mount false).play [] disabledHoldEvents).1

/-- One press of a key is confirmed twice, and a disabled button confirms. -/
theorem repeat_confirms_again :
    (∃ scene, ButtonRun (fun _ _ _ => True) false heldKeyLog scene ∧
      ¬ Grounded ConfirmPermitted heldKeyLog) ∧
    ∃ scene, ButtonRun (fun _ _ _ => True) false disabledHoldLog scene ∧
      ¬ Grounded ConfirmPermitted disabledHoldLog := by
  constructor
  · refine ⟨_, ButtonRun.play .mount heldKeyEvents, ?_⟩
    intro grounded
    have split : heldKeyLog = heldKeyLog.take 6 ++
        [{ event := .fire 1, press := 1, time := 3020, disabled := false
           confirms := some 0 }] := by
      decide
    have permitted := grounded _ _ [] split 0 rfl
    have earlier : { event := .fire 0, press := 1, time := 1500, disabled := false
                     confirms := some 0 } ∈ heldKeyLog.take 6 := by
      decide
    exact permitted.2.2 _ earlier rfl
  · refine ⟨_, ButtonRun.play .mount disabledHoldEvents, ?_⟩
    intro grounded
    have split : disabledHoldLog = disabledHoldLog.take 4 ++
        [{ event := .fire 0, press := 1, time := 1500, disabled := true
           confirms := some 0 }] := by
      decide
    cases (grounded _ _ [] split 0 rfl).2.1

/-- A button pressed once and held. -/
theorem confirms_once_held_enter :
    ∃ log scene, ButtonRun Careful false log scene ∧ (∃ seen ∈ log, seen.confirms = some 0) ∧
      Grounded ConfirmPermitted log := by
  have run : ButtonRun Careful false _ _ :=
    .step (.step (.step (.mount) (.keyDown "Enter" false) nofun) (.elapse 1500) trivial)
      (.fire 0) trivial
  refine ⟨_, _, run, ?_, confirms_once_held run⟩
  exact ⟨_, List.mem_append_right _ (List.mem_singleton_self _), rfl⟩

end ServersManager
