import PlantAssistant.Firmware.NumberText

/-! # The four lines of the display

`main` writes the sensor values every half second. Each line is put together in
one buffer, padded to thirteen columns and handed to the display.
-/

namespace PlantAssistant.Firmware

/-- `sizeof(line)`. -/
abbrev oledLineSize : ℕ := 20

/-- The sensor values that `main_show_oled_data` reads. -/
structure OledValues (F : Type) where
  oledMQ2ppm : F
  oledMQ135ppm : F
  oledSoilPercent : F
  myTemp : F
  myHumi : F

/-- `main_append_string`. -/
def mainAppendString (str : String) (buffer : List Char) : List Char :=
  str.toList.foldl (fun buffer ch => appendChar ch buffer) buffer

/-- `main_pad_line`, which also ends the text at `width`. -/
def mainPadLine (width : ℕ) (line : List Char) : List Char :=
  let len := min line.length width
  line.take len ++ List.replicate (width - len) ' '

namespace OledValues

variable {F : Type} [CFloat F] (values : OledValues F)

def mq2Text : List Char :=
  if CFloat.lit 999 ≤ values.oledMQ2ppm then mainAppendString "MQ2:>999" []
  else mainAppendFixed values.oledMQ2ppm 2 (mainAppendString "MQ2:" [])

def mq135Text : List Char :=
  if CFloat.lit 999 ≤ values.oledMQ135ppm then mainAppendString "MQ135:>999" []
  else mainAppendFixed values.oledMQ135ppm 2 (mainAppendString "MQ135:" [])

def soilText : List Char :=
  appendChar '%' (mainAppendFixed values.oledSoilPercent 1 (mainAppendString "Soil:" []))

def climateText : List Char :=
  appendChar '%' (mainAppendFixed values.myHumi 1 (mainAppendString " H:"
    (mainAppendFixed values.myTemp 1 (mainAppendString "T:" []))))

/-- The texts before they are padded, each with its row. -/
def texts : List (ℕ × List Char) :=
  [(0, values.mq2Text), (2, values.mq135Text), (4, values.soilText), (6, values.climateText)]

/-- `main_show_oled_data`: what `OLED_ShowStr` is called with. -/
def mainShowOledData : List (ℕ × List Char) :=
  values.texts.map fun line => (line.1, mainPadLine 13 line.2)

end OledValues

end PlantAssistant.Firmware
