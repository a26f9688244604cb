import PlantAssistant.Vision.Green
import PlantAssistant.Vision.ModeSwitch
import PlantAssistant.Vision.Sight

/-! # The vision script

A plant type is chosen by touch and sent. From then on the script is in one of
two modes, each a loop over camera frames that looks for a mode command four
times in every pass. Entering a mode starts its variables anew.
-/

namespace PlantAssistant.Vision

open Transition

/-! ## Choosing the plant type -/

def PlantCode.all : List PlantCode := [.shade, .halfSun, .fullSun]

structure Rect where
  x : ℤ
  y : ℤ
  w : ℤ
  h : ℤ
deriving DecidableEq, Repr

def pointInRect (x y : ℤ) (rect : Rect) : Bool :=
  rect.x ≤ x ∧ x ≤ rect.x + rect.w ∧ rect.y ≤ y ∧ y ≤ rect.y + rect.h

/-- The rectangle of a button, from `get_plant_button_rects`. -/
def plantButtonRect (imgW : ℤ) : PlantCode → Rect
  | .shade => ⟨(imgW - (imgW - 56)) / 2, 68, imgW - 56, 36⟩
  | .halfSun => ⟨(imgW - (imgW - 56)) / 2, 118, imgW - 56, 36⟩
  | .fullSun => ⟨(imgW - (imgW - 56)) / 2, 168, imgW - 56, 36⟩

/-- A touch that `map_touch_to_image` returns. -/
structure Touch where
  x : ℤ
  y : ℤ
  pressed : Bool
deriving DecidableEq, Repr

/-- The button at a point. -/
def touchedPlant (imgW : ℤ) (touch : Touch) : Option PlantCode :=
  PlantCode.all.find? fun code => pointInRect touch.x touch.y (plantButtonRect imgW code)

/-- The variables of `select_plant_type`. -/
structure Selection where
  selectedCode : Option PlantCode := none
  selectedTick : ℤ := 0
  lastTouchMs : ℤ := 0
deriving DecidableEq, Repr

def touchDebounceMs : ℤ := 300

/-- A pass of its loop, with what it finds touched, and the clock at that moment. -/
def Selection.touch (selection : Selection) (imgW : ℤ) (tp : Option Touch) (nowMs : ℤ) :
    Selection :=
  match tp with
  | some touch =>
      if touch.pressed ∧ touchDebounceMs < nowMs - selection.lastTouchMs then
        match touchedPlant imgW touch with
        | some code => ⟨some code, nowMs, nowMs⟩
        | none => selection
      else selection
  | none => selection

/-- The type it returns, if it does. -/
def Selection.result (selection : Selection) (nowMs : ℤ) : Option PlantCode :=
  if 800 < nowMs - selection.selectedTick then selection.selectedCode else none

/-! ## The light mode -/

def lightSendMs : ℤ := 100

/-- The variables of `run_light_mode`. -/
structure LightLoop where
  lastLightSendMs : ℤ := 0
  lastLightNoneSendMs : ℤ := 0
deriving DecidableEq, Repr

/-- A frame of the light mode: the variables after it, and what is sent. -/
def LightLoop.frame (loop : LightLoop) (center : Option (ℕ × ℕ)) (nowMs : ℤ) :
    LightLoop × Option Packet :=
  match center with
  | some (cx, cy) =>
      if lightSendMs ≤ nowMs - loop.lastLightSendMs then
        ({ loop with lastLightSendMs := nowMs }, some (.lightCenter cx cy))
      else (loop, none)
  | none =>
      if lightSendMs ≤ nowMs - loop.lastLightNoneSendMs then
        ({ loop with lastLightNoneSendMs := nowMs }, some .lightNotFound)
      else (loop, none)

/-! ## The program -/

/-- What a camera frame holds, whether the search for light raises an exception on it,
the clock when it is reported, and whether the port takes what is sent then. -/
structure View (width height : ℕ) where
  contours : List (Region width height)
  raised : Bool
  objs : List Detection
  nowMs : ℤ
  sendOk : Bool

def View.center {width height : ℕ} (view : View width height) : Option (ℕ × ℕ) :=
  (findLightCenter view.raised view.contours).map Region.center

/-- The frame as `run_plant_mode` sees it. -/
def View.frame {width height : ℕ} (view : View width height) : Frame where
  current := summarizeObjects (filterObjects width height view.objs)
  nowMs := view.nowMs
  sendOk := view.sendOk

/-- How far the loop body of a mode has come: to one of the calls of
`recv_mode_switch`, or to the report. -/
inductive Point where
  | started
  | captured
  | examined
  | reporting
  | shown
deriving DecidableEq, Repr

/-- Where a poll that finds no other mode goes on. -/
def Point.afterPoll : Point → Point
  | .started => .captured
  | .captured => .examined
  | .examined => .reporting
  | .reporting => .reporting
  | .shown => .started

inductive ModeLoop where
  | plant (loop : PlantLoop)
  | light (loop : LightLoop)
deriving DecidableEq, Repr

def ModeLoop.mode : ModeLoop → Mode
  | .plant _ => .plant
  | .light _ => .light

/-- The variables a mode starts with. -/
def ModeLoop.enter : Mode → ModeLoop
  | .plant => .plant .init
  | .light => .light {}

/-- A frame in either mode. -/
def ModeLoop.frame {width height : ℕ} (view : View width height) :
    ModeLoop → ModeLoop × Option Packet
  | .plant loop =>
      let out := loop.frame view.frame
      (.plant out.1, out.2.map fun state => .state state.code)
  | .light loop =>
      let out := loop.frame view.center view.nowMs
      (.light out.1, out.2)

inductive Phase where
  | selecting (selection : Selection)
  | running (loop : ModeLoop) (point : Point)
deriving DecidableEq, Repr

/-- A packet the port has taken, with the clock, and how often a mode had been
entered by then. -/
structure Report where
  packet : Packet
  nowMs : ℤ
  entry : ℕ
deriving DecidableEq, Repr

structure Script where
  phase : Phase := .selecting {}
  entry : ℕ := 0
  sent : List Report := []
deriving DecidableEq, Repr

/-- The script's actions: a pass of the selection, with the clock before and
after; a call of `recv_mode_switch`, with its result; the report on a frame. -/
inductive ScriptEvent (width height : ℕ) where
  | touch (tp : Option Touch) (nowMs nowMs' : ℤ) (sendOk : Bool)
  | poll (recvCode : Option Mode)
  | frame (view : View width height)

namespace Script

def send (s : Script) (packet : Option Packet) (nowMs : ℤ) (sendOk : Bool) : Script :=
  let reports := packet.toList.map fun packet => (⟨packet, nowMs, s.entry⟩ : Report)
  { s with sent := s.sent ++ if sendOk then reports else [] }

def enter (s : Script) (mode : Mode) : Script :=
  { s with phase := .running (.enter mode) .started, entry := s.entry + 1 }

/-- The script does what its phase and point are at; other events are none of
that moment. -/
def step {width height : ℕ} (s : Script) : ScriptEvent width height → Script
  | .touch tp nowMs nowMs' sendOk =>
      match s.phase with
      | .selecting selection =>
          let selection := selection.touch width tp nowMs
          match selection.result nowMs' with
          | some code => (s.send (some (.plantType code)) nowMs' sendOk).enter defaultMode
          | none => { s with phase := .selecting selection }
      | .running _ _ => s
  | .poll recvCode =>
      match s.phase with
      | .running loop point =>
          if point = .reporting then s
          else
            match recvCode with
            | some mode => s.enter mode
            | none => { s with phase := .running loop point.afterPoll }
      | .selecting _ => s
  | .frame view =>
      match s.phase with
      | .running loop .reporting =>
          let out := loop.frame view
          { s.send out.2 view.nowMs view.sendOk with phase := .running out.1 .shown }
      | _ => s

variable {width height : ℕ}

/-- A pass of the selection ends it or goes on with it. -/
theorem step_touch {s : Script} {selection : Selection} (hphase : s.phase = .selecting selection)
    (tp : Option Touch) (nowMs nowMs' : ℤ) (sendOk : Bool) :
    (∃ code ∈ (selection.touch width tp nowMs).selectedCode,
        s.step (.touch tp nowMs nowMs' sendOk : ScriptEvent width height) =
          (s.send (some (.plantType code)) nowMs' sendOk).enter defaultMode) ∨
      s.step (.touch tp nowMs nowMs' sendOk : ScriptEvent width height) =
        { s with phase := .selecting (selection.touch width tp nowMs) } := by
  obtain ⟨phase, entry, sent⟩ := s
  obtain rfl : phase = _ := hphase
  cases hresult : (selection.touch width tp nowMs).result nowMs' with
  | none =>
      right
      simp only [step, hresult]
  | some code =>
      left
      refine ⟨code, ?_, by simp only [step, hresult]⟩
      unfold Selection.result at hresult
      split at hresult
      · exact hresult
      · cases hresult

theorem step_poll {s : Script} {loop : ModeLoop} {point : Point}
    (hphase : s.phase = .running loop point) (recvCode : Option Mode) :
    s.step (.poll recvCode : ScriptEvent width height) =
      if point = .reporting then s
      else recvCode.elim { s with phase := .running loop point.afterPoll } s.enter := by
  obtain ⟨phase, entry, sent⟩ := s
  obtain rfl : phase = _ := hphase
  cases recvCode <;> rfl

end Script

def scriptSystem (width height : ℕ) : System Script (ScriptEvent width height) where
  init := {}
  step := Script.step

end PlantAssistant.Vision
