/-
  Sinks show exactly what was staged.

  A sink is asked to stage pixels, to write rows and to display.  Writing a row is staging its
  pixels one after the other and displaying once (`carryOut_eq`), so every history of requests comes
  down to a history of calls.  Of that, two things are remembered:

  * `lastColor`  — the colour staged last at a position;
  * `lastLevel`  — the brightness staged last, at whatever position.

  `Staging.staged` is what a history leaves staged, told by these two.  A `Driver` is a sink that
  keeps a staging and, when it displays, hands something made of it to a device.  The step is one
  call: it keeps the staging that of the history so far, and only a display reaches the device.  By
  induction on the history, read from its end, the device was handed the staging before each display
  (`Driver.device_foldl`), and nothing of that depends on what the device answered.
-/
import Mathlib.Data.List.Induction
import LedAnimation.Sink.Strip
import LedAnimation.Sink.Terminal

namespace LedAnimation

variable {τ : Type} {n : Nat}

/-! ## Requests -/

/-- Ask a sink for something. -/
def Call.carryOut [Sink τ] (sink : τ) : Call → τ
  | .setPixel index color brightness => Sink.setPixel sink index color brightness
  | .display => (Sink.display sink).value

/-- Staging a row is a call for each of its pixels, from left to right. -/
theorem stageFrom_eq [Sink τ] (sink : τ) (index : Nat) (brightness : Binary32) (row : List Rgb) :
    Sink.stageFrom sink index brightness row
      = (row.mapIdx fun i color => .setPixel (index + i) color brightness).foldl Call.carryOut
          sink := by
  induction row generalizing sink index with
  | nil => rfl
  | cons color row ih =>
    rw [Sink.stageFrom, ih, List.mapIdx_cons, List.foldl_cons]
    simp only [Nat.add_assoc, Nat.add_comm 1]
    rfl

/-- What is asked of a sink from outside. -/
inductive Request where
  | setPixel (index : Nat) (color : Rgb) (brightness : Binary32)
  /-- Write a row, of whatever length. -/
  | write (row : List Rgb) (brightness : Binary32)
  | display
  deriving DecidableEq

namespace Request

/-- Ask a sink for something. -/
def carryOut [Sink τ] (sink : τ) : Request → τ
  | .setPixel index color brightness => Sink.setPixel sink index color brightness
  | .write row brightness => (Sink.write sink row brightness).value
  | .display => (Sink.display sink).value

/-- What it comes down to.  A row is staged from the start of the strip, and displayed once. -/
def calls : Request → List Call
  | .setPixel index color brightness => [.setPixel index color brightness]
  | .write row brightness =>
    row.mapIdx (fun i color => .setPixel i color brightness) ++ [.display]
  | .display => [.display]

/-- Something is displayed. -/
def displays : Request → Bool
  | .setPixel .. => false
  | .write .. => true
  | .display => true

/-- **A request comes down to its calls**, for any sink. -/
theorem carryOut_eq [Sink τ] (sink : τ) (request : Request) :
    carryOut sink request = request.calls.foldl Call.carryOut sink := by
  cases request with
  | setPixel index color brightness => rfl
  | display => rfl
  | write row brightness =>
    show (Sink.display (Sink.stageFrom sink 0 brightness row)).value = _
    rw [stageFrom_eq, calls, List.foldl_append]
    simp only [Nat.zero_add]
    rfl

/-- And so does any number of requests: their calls, one request after the other. -/
theorem foldl_carryOut_eq [Sink τ] (sink : τ) (requests : List Request) :
    requests.foldl carryOut sink = (requests.flatMap calls).foldl Call.carryOut sink := by
  induction requests generalizing sink with
  | nil => rfl
  | cons request requests ih =>
    rw [List.foldl_cons, ih, carryOut_eq, List.flatMap_cons, List.foldl_append]

end Request

/-! ## What a history leaves staged -/

/-- The colour a call stages at a position. -/
def Call.colorAt? (i : Nat) : Call → Option Rgb
  | .setPixel index color _ => if index = i then some color else none
  | .display => none

/-- The brightness a call stages. -/
def Call.brightness? : Call → Option Binary32
  | .setPixel _ _ brightness => some brightness
  | .display => none

/-- The colour staged last at a position; without any it is dark. -/
def lastColor (history : List Call) (i : Nat) : Rgb :=
  (history.filterMap (Call.colorAt? i)).getLast?.getD off

/-- The level of the brightness staged last; without any it is full. -/
def lastLevel (history : List Call) : UInt8 :=
  ((history.filterMap Call.brightness?).getLast?.map Binary32.level).getD 255

/-- What a history leaves staged. -/
def Staging.staged (n : Nat) (history : List Call) : Staging n :=
  ⟨Vector.ofFn fun i => lastColor history i, lastLevel history⟩

/-- What a call leaves staged. -/
def Staging.take (s : Staging n) : Call → Staging n
  | .setPixel index color brightness => s.setPixel index color brightness
  | .display => s

/-- A pixel that is staged takes its place and no other one. -/
theorem lastColor_concat_setPixel (history : List Call) (index : Nat) (color : Rgb)
    (brightness : Binary32) (i : Nat) :
    lastColor (history ++ [.setPixel index color brightness]) i
      = if index = i then color else lastColor history i := by
  unfold lastColor
  by_cases h : index = i <;> simp [Call.colorAt?, h]

/-- The brightness staged last counts for the whole strip. -/
theorem lastLevel_concat_setPixel (history : List Call) (index : Nat) (color : Rgb)
    (brightness : Binary32) :
    lastLevel (history ++ [.setPixel index color brightness]) = brightness.level := by
  simp [lastLevel, Call.brightness?]

/-- Before the first call everything is dark, and the brightness is full. -/
theorem staged_nil : Staging.staged n [] = .clean := by
  unfold Staging.staged Staging.clean
  congr 1
  ext i h : 1
  simp [lastColor]

/-- **One call**, at the end of a history. -/
theorem staged_concat (history : List Call) (call : Call) :
    Staging.staged n (history ++ [call]) = (Staging.staged n history).take call := by
  cases call with
  | display =>
    have hcolor (i : Nat) : lastColor (history ++ [.display]) i = lastColor history i := by
      simp [lastColor, Call.colorAt?]
    have hlevel : lastLevel (history ++ [.display]) = lastLevel history := by
      simp [lastLevel, Call.brightness?]
    simp only [Staging.staged, hcolor, hlevel]
    rfl
  | setPixel index color brightness =>
    simp only [Staging.staged, lastLevel_concat_setPixel, Staging.take, Staging.setPixel]
    congr 1
    ext i h : 1
    rw [Vector.getElem_setIfInBounds, Vector.getElem_ofFn, Vector.getElem_ofFn,
      lastColor_concat_setPixel]

/-! ## Displays -/

/-- What is staged at each display of a history: what the calls before it have left. -/
def displayed (n : Nat) (history : List Call) : List (Staging n) :=
  ((List.range history.length).filter fun k => history[k]? = some .display).map fun k =>
    .staged n (history.take k)

/-- The displays before the end of a history are those of its beginning. -/
theorem displayed_concat (history : List Call) (call : Call) :
    displayed n (history ++ [call])
      = displayed n history ++ if call = .display then [.staged n history] else [] := by
  unfold displayed
  rw [List.length_append, List.length_singleton, List.range_succ, List.filter_append,
    List.map_append]
  congr 1
  · have hfilter : (List.range history.length).filter
          (fun k => (history ++ [call])[k]? = some .display)
        = (List.range history.length).filter fun k => history[k]? = some .display := by
      refine List.filter_congr fun k hk => ?_
      rw [List.getElem?_append_left (List.mem_range.1 hk)]
    rw [hfilter]
    refine List.map_congr_left fun k hk => ?_
    have hlt := List.mem_range.1 (List.mem_filter.1 hk).1
    rw [List.take_append_of_le_length (Nat.le_of_lt hlt)]
  · by_cases h : call = .display <;> simp [h]

/-- As many displays as calls for one. -/
theorem length_displayed (history : List Call) :
    (displayed n history).length = history.count .display := by
  induction history using List.reverseRecOn with
  | nil => rfl
  | append_singleton history call ih =>
    rw [displayed_concat, List.length_append, ih, List.count_append]
    cases call with
    | setPixel index color brightness => rfl
    | display => rfl

/-- What was displayed is not changed by what comes later. -/
theorem displayed_append (before after : List Call) :
    displayed n before <+: displayed n (before ++ after) := by
  induction after using List.reverseRecOn with
  | nil => exact ⟨[], by rw [List.append_nil, List.append_nil]⟩
  | append_singleton after call ih =>
    rw [← List.append_assoc, displayed_concat]
    exact ih.trans (List.prefix_append ..)

/-- **A display shows what was staged before it.** -/
theorem getElem?_displayed (before after : List Call) :
    (displayed n (before ++ .display :: after))[before.count .display]?
      = some (.staged n before) := by
  have hprefix := displayed_append (n := n) (before ++ [.display]) after
  rw [List.append_assoc, displayed_concat, if_pos rfl] at hprefix
  obtain ⟨rest, hrest⟩ := hprefix
  rw [← length_displayed (n := n) before, ← List.singleton_append, ← hrest, List.append_assoc,
    List.getElem?_append_right (Nat.le_refl _), Nat.sub_self]
  rfl

/-- A request displays once at most, writing a row as well as displaying. -/
theorem count_display_calls (request : Request) :
    request.calls.count .display = if request.displays then 1 else 0 := by
  cases request with
  | setPixel index color brightness => rfl
  | display => rfl
  | write row brightness =>
    rw [Request.calls, List.count_append]
    have hstaging : Call.display ∉ row.mapIdx fun i color => .setPixel i color brightness := by
      intro hmem
      obtain ⟨i, _, hcall⟩ := List.mem_mapIdx.1 hmem
      exact nomatch hcall
    rw [List.count_eq_zero.2 hstaging]
    rfl

/-- Every request for a display is one display. -/
theorem count_display_flatMap (requests : List Request) :
    (requests.flatMap Request.calls).count .display = requests.countP Request.displays := by
  induction requests with
  | nil => rfl
  | cons request requests ih =>
    rw [List.flatMap_cons, List.count_append, List.countP_cons, ih, count_display_calls,
      Nat.add_comm]

/-- A staging takes a row: as far as the row and the strip go, pixels get its colours, and all
    others stay as they were. -/
structure TakesRow (before : Staging n) (row : List Rgb) (brightness : Binary32)
    (after : Staging n) : Prop where
  pixels : ∀ i (h : i < n), after.pixels[i] = row[i]?.getD before.pixels[i]
  brightness : after.brightness = if row = [] then before.brightness else brightness.level

/-- A sink that keeps a staging and has a device display it. -/
structure Driver (τ δ : Type) (n : Nat) [Sink τ] where
  staging : τ → Staging n
  device : τ → δ
  /-- What becomes of the device when something staged is displayed. -/
  feed : δ → Staging n → δ
  staging_setPixel : ∀ sink index color brightness,
    staging (Sink.setPixel sink index color brightness)
      = (staging sink).setPixel index color brightness
  staging_display : ∀ sink, staging (Sink.display sink).value = staging sink
  device_setPixel : ∀ sink index color brightness,
    device (Sink.setPixel sink index color brightness) = device sink
  device_display : ∀ sink, device (Sink.display sink).value = feed (device sink) (staging sink)

namespace Driver

variable {δ : Type} [Sink τ] (d : Driver τ δ n)

/-- Staging sees every call, and displaying changes nothing of it. -/
theorem staging_carryOut (sink : τ) (call : Call) :
    d.staging (call.carryOut sink) = (d.staging sink).take call := by
  cases call with
  | setPixel index color brightness => exact d.staging_setPixel ..
  | display => exact d.staging_display sink

/-- What is staged does not depend on the device. -/
theorem staging_foldl (sink : τ) (h : d.staging sink = .clean) (history : List Call) :
    d.staging (history.foldl Call.carryOut sink) = .staged n history := by
  induction history using List.reverseRecOn with
  | nil => exact h.trans staged_nil.symm
  | append_singleton history call ih =>
    rw [List.foldl_append, List.foldl_cons, List.foldl_nil, staging_carryOut, ih, staged_concat]

/-- **The device was handed what was staged**, once for every display. -/
theorem device_foldl (sink : τ) (h : d.staging sink = .clean) (history : List Call) :
    d.device (history.foldl Call.carryOut sink)
      = (displayed n history).foldl d.feed (d.device sink) := by
  induction history using List.reverseRecOn with
  | nil => rfl
  | append_singleton history call ih =>
    rw [displayed_concat, List.foldl_append, List.foldl_append, List.foldl_cons, List.foldl_nil]
    cases call with
    | setPixel index color brightness => exact (d.device_setPixel ..).trans ih
    | display =>
      show d.device (Sink.display _).value = d.feed _ _
      rw [d.device_display, ih, d.staging_foldl sink h]

/-- **A row, pixel by pixel.**  It is staged from `start` on as far as the strip goes. -/
theorem pixels_stageFrom (sink : τ) (start : Nat) (brightness : Binary32) (row : List Rgb) (i : Nat)
    (h : i < n) :
    (d.staging (Sink.stageFrom sink start brightness row)).pixels[i]
      = (if start ≤ i then row[i - start]? else none).getD (d.staging sink).pixels[i] := by
  induction row generalizing sink start with
  | nil => simp [Sink.stageFrom]
  | cons color row ih =>
    rw [Sink.stageFrom, ih, d.staging_setPixel, Staging.setPixel, Vector.getElem_setIfInBounds]
    -- the first colour of the row lies before the position, on it, or behind it
    rcases Nat.lt_trichotomy start i with hlt | rfl | hgt
    · have hnext : i - start = i - (start + 1) + 1 := by omega
      rw [if_pos (show start + 1 ≤ i from hlt), if_pos (Nat.le_of_lt hlt),
        if_neg (Nat.ne_of_lt hlt), hnext, List.getElem?_cons_succ]
    · rw [if_neg (Nat.not_succ_le_self start), if_pos rfl, if_pos (Nat.le_refl start), Nat.sub_self]
      rfl
    · rw [if_neg (by omega), if_neg (by omega), if_neg (by omega)]

/-- A row that is not empty sets the brightness, whatever its length. -/
theorem brightness_stageFrom (sink : τ) (start : Nat) (brightness : Binary32) (row : List Rgb) :
    (d.staging (Sink.stageFrom sink start brightness row)).brightness
      = if row = [] then (d.staging sink).brightness else brightness.level := by
  induction row generalizing sink start with
  | nil => rfl
  | cons color row ih =>
    rw [Sink.stageFrom, ih, d.staging_setPixel, if_neg (List.cons_ne_nil color row)]
    exact ite_self _

/-- **Writing a row**, as the strip sees it: its pixels are staged from the start, and then
    displayed. -/
theorem takesRow (sink : τ) (row : List Rgb) (brightness : Binary32) :
    TakesRow (d.staging sink) row brightness
      (d.staging (Sink.write sink row brightness).value) := by
  rw [Sink.write, d.staging_display]
  constructor
  case pixels =>
    intro i h
    rw [pixels_stageFrom, if_pos (Nat.zero_le i), Nat.sub_zero]
  case brightness => exact d.brightness_stageFrom ..

end Driver

/-- A strip sends its row to the bus, and is otherwise as it was, whether or not that was answered
    with an error. -/
theorem Strip.value_display {β : Type} [Bus β] (s : Strip β n) :
    (Sink.display s).value = { s with bus := (Bus.send s.bus s.shown).1 } := by
  simp only [Sink.display]
  cases (Bus.send s.bus s.shown).2 <;> rfl

/-- The row of colours that a staging is displayed with. -/
def Staging.row (paint : UInt8 → Rgb → Rgb) (s : Staging n) : List Rgb :=
  (s.pixels.map (paint s.brightness)).toList

/-- A strip hands rows to a bus. -/
def Strip.driver (β : Type) [Bus β] (n : Nat) : Driver (Strip β n) β n where
  staging s := s.staging
  device s := s.bus
  feed bus staged := (Bus.send bus (staged.row Rgb.dimmed)).1
  staging_setPixel _ _ _ _ := rfl
  staging_display s := by rw [value_display]
  device_setPixel _ _ _ _ := rfl
  device_display s := by rw [value_display]; rfl

/-- A screen puts its line on the outlet, and is otherwise as it was. -/
theorem Screen.value_display {ω : Type} [Outlet ω] (s : Screen ω n) :
    (Sink.display s).value
      = { s with outlet := (Outlet.put s.outlet (Terminal.line s.shown)).1 } := by
  simp only [Sink.display]
  cases (Outlet.put s.outlet (Terminal.line s.shown)).2 <;> rfl

/-- A strip on a terminal hands lines to an outlet. -/
def Screen.driver (ω : Type) [Outlet ω] (n : Nat) : Driver (Screen ω n) ω n where
  staging s := s.staging
  device s := s.outlet
  feed outlet staged := (Outlet.put outlet (Terminal.line (staged.row Rgb.faded))).1
  staging_setPixel _ _ _ _ := rfl
  staging_display s := by rw [value_display]
  device_setPixel _ _ _ _ := rfl
  device_display s := by rw [value_display]; rfl

/-! ## Dimming -/

/-- A share of a level fits into 8 bits, and is no more than the level. -/
theorem toNat_share (c : UInt8) {part whole : Nat} (h : part ≤ whole) :
    (c.toNat * part / whole).toUInt8.toNat = c.toNat * part / whole ∧
      (c.toNat * part / whole).toUInt8 ≤ c := by
  have hle : c.toNat * part / whole ≤ c.toNat := by
    refine Nat.div_le_of_le_mul ?_
    rw [Nat.mul_comm whole]
    exact Nat.mul_le_mul_left _ h
  have htoNat : (c.toNat * part / whole).toUInt8.toNat = c.toNat * part / whole :=
    UInt8.toNat_ofNat_of_lt' (Nat.lt_of_le_of_lt hle c.toNat_lt)
  refine ⟨htoNat, UInt8.le_iff_toNat_le.2 ?_⟩
  rw [htoNat]
  exact hle

/-- A channel of a strip is dimmed by a product of bytes, of which the upper byte is kept: full
    brightness changes nothing. -/
theorem toNat_dimmed (b c : UInt8) :
    (dimmed b c).toNat = c.toNat * (b.toNat + 1) / 256 ∧ dimmed b c ≤ c := by
  have hb : b.toNat < 256 := b.toNat_lt
  exact toNat_share c (by omega)

/-- A channel on a terminal is faded by a quotient: here too full brightness changes nothing. -/
theorem toNat_faded (b c : UInt8) :
    (faded b c).toNat = c.toNat * b.toNat / 255 ∧ faded b c ≤ c := by
  have hb : b.toNat < 256 := b.toNat_lt
  exact toNat_share c (by omega)

/-! ## What is shown -/

/-- A colour at a share of `part / whole` of its light. -/
structure Rgb.Scales (c : Rgb) (part whole : Nat) (shown : Rgb) : Prop where
  red : shown.r.toNat = c.r.toNat * part / whole
  green : shown.g.toNat = c.g.toNat * part / whole
  blue : shown.b.toNat = c.b.toNat * part / whole
  /-- No channel becomes brighter. -/
  darker : shown.r ≤ c.r ∧ shown.g ≤ c.g ∧ shown.b ≤ c.b

/-- What a strip shows of a colour: of 256 parts one more than the brightness. -/
theorem Rgb.scales_dimmed (b : UInt8) (c : Rgb) :
    c.Scales (b.toNat + 1) 256 (c.dimmed b) where
  red := (toNat_dimmed b c.r).1
  green := (toNat_dimmed b c.g).1
  blue := (toNat_dimmed b c.b).1
  darker := ⟨(toNat_dimmed b c.r).2, (toNat_dimmed b c.g).2, (toNat_dimmed b c.b).2⟩

/-- What a terminal shows of it: of 255 parts as many as the brightness. -/
theorem Rgb.scales_faded (b : UInt8) (c : Rgb) : c.Scales b.toNat 255 (c.faded b) where
  red := (toNat_faded b c.r).1
  green := (toNat_faded b c.g).1
  blue := (toNat_faded b c.b).1
  darker := ⟨(toNat_faded b c.r).2, (toNat_faded b c.g).2, (toNat_faded b c.b).2⟩

/-- A row shows the whole strip: at every position the colour staged last, at the share of its light
    that the level of the brightness staged last stands for. -/
structure Shows (n : Nat) (part : Nat → Nat) (whole : Nat) (history : List Call)
    (row : List Rgb) : Prop where
  length : row.length = n
  pixels : ∀ i, i < n → ∃ shown, row[i]? = some shown ∧
    (lastColor history i).Scales (part (lastLevel history).toNat) whole shown

/-- A row of scaled colours shows what was staged. -/
theorem shows_row {paint : UInt8 → Rgb → Rgb} {part : Nat → Nat} {whole : Nat}
    (h : ∀ (b : UInt8) (c : Rgb), c.Scales (part b.toNat) whole (paint b c))
    (history : List Call) :
    Shows n part whole history ((Staging.staged n history).row paint) := by
  constructor
  case length => simp [Staging.row]
  case pixels =>
    intro i hi
    exact ⟨_, by simp [Staging.row, Staging.staged, hi], h _ _⟩

/-- What draws the pixel at a position: a space if another one stands before it, and a square
    between the escape sequences that set its colour and reset it. -/
def drawnPixel (i : Nat) (c : Rgb) : String :=
  (if i = 0 then "" else " ") ++ ("\x1b[38;2;" ++ toString c.r.toNat ++ ";" ++
    toString c.g.toNat ++ ";" ++ toString c.b.toNat ++ "m■\x1b[0m")

/-- The pixels behind the first one all have another one before them. -/
theorem intercalate_square (c : Rgb) (row : List Rgb) :
    String.intercalate " " ((c :: row).map Rgb.square)
      = c.square ++ String.join (row.map fun c => " " ++ c.square) := by
  induction row generalizing c with
  | nil => simp
  | cons next row ih =>
    have hnext := ih next
    rw [List.map_cons] at hnext
    rw [List.map_cons, List.map_cons, String.intercalate_cons_cons, hnext, List.map_cons,
      String.join_cons, String.append_assoc, String.append_assoc]

/-- A line draws its pixels one after the other, from the start of the line. -/
theorem line_eq (row : List Rgb) :
    Terminal.line row = "\r" ++ String.join (row.mapIdx drawnPixel) := by
  rw [Terminal.line]
  congr 1
  cases row with
  | nil => rfl
  | cons c row =>
    have hlater : (row.mapIdx fun i => drawnPixel (i + 1)) = row.map fun c => " " ++ c.square := by
      refine List.ext_getElem (by simp) fun i hleft hright => ?_
      rw [List.getElem_mapIdx, List.getElem_map]
      rfl
    rw [intercalate_square, List.mapIdx_cons, String.join_cons, hlater]
    rfl

/-! ## What is promised -/

/-- There is one output for every request to write or to display, and it shows what the calls before
    the display have left. -/
structure OncePerDisplay {α : Type} (requests : List Request) (IsShown : List Call → α → Prop)
    (outputs : List α) : Prop where
  length : outputs.length = requests.countP Request.displays
  shows : ∀ before after, requests.flatMap Request.calls = before ++ .display :: after →
    ∃ output, outputs[before.count .display]? = some output ∧ IsShown before output

/-- What is made of every staging that is displayed is shown once. -/
theorem oncePerDisplay_displayed {α : Type} (make : Staging n → α)
    {IsShown : List Call → α → Prop} (h : ∀ history, IsShown history (make (.staged n history)))
    (requests : List Request) :
    OncePerDisplay requests IsShown
      ((displayed n (requests.flatMap Request.calls)).map make) := by
  constructor
  case length => rw [List.length_map, length_displayed, count_display_flatMap]
  case shows =>
    intro before after hcalls
    refine ⟨_, ?_, h before⟩
    rw [hcalls, List.getElem?_map, getElem?_displayed]
    rfl

/-- What there is to say of the drivers of a strip and of a terminal, after any requests. -/
structure Driven (n : Nat) (requests : List Request) : Prop where
  /-- A bus is sent one row for every display, whatever it answers: all pixels of the strip, every
      channel `c` of them as `c * (b + 1) / 256` for the level `b` of the brightness. -/
  strip : ∃ rows, OncePerDisplay requests (Shows n (· + 1) 256) rows ∧
    ∀ {β : Type} [Bus β] (bus : β),
      (requests.foldl Request.carryOut (Strip.on bus : Strip β n)).bus
        = rows.foldl (fun bus row => (Bus.send bus row).1) bus
  /-- An outlet is given one line for every display, whatever it answers: it goes back to the start
      of the line and draws all pixels of the strip, with `c * b / 255` for every channel. -/
  screen : ∃ lines,
    OncePerDisplay requests
        (fun before line => ∃ row, Shows n id 255 before row ∧
          line = "\r" ++ String.join (row.mapIdx drawnPixel)) lines ∧
      ∀ {ω : Type} [Outlet ω] (outlet : ω),
        (requests.foldl Request.carryOut (Screen.on outlet : Screen ω n)).outlet
          = lines.foldl (fun outlet line => (Outlet.put outlet line).1) outlet
  /-- Both drivers take a row of any length. -/
  stripRow : ∀ {β : Type} [Bus β] (s : Strip β n) row brightness,
    TakesRow s.staging row brightness (Sink.write s row brightness).value.staging
  screenRow : ∀ {ω : Type} [Outlet ω] (s : Screen ω n) row brightness,
    TakesRow s.staging row brightness (Sink.write s row brightness).value.staging

/-- **Drivers show exactly what was staged.** -/
theorem drivers_show_what_is_staged (n : Nat) (requests : List Request) : Driven n requests := by
  constructor
  case strip =>
    have honce := oncePerDisplay_displayed (Staging.row (n := n) Rgb.dimmed)
      (shows_row Rgb.scales_dimmed) requests
    refine ⟨_, honce, fun bus => ?_⟩
    -- the rows are made of the staging before each display, and the bus has no say in them
    rw [Request.foldl_carryOut_eq, List.foldl_map]
    exact (Strip.driver _ n).device_foldl _ rfl _
  case screen =>
    refine ⟨_, oncePerDisplay_displayed
      (fun staged : Staging n => Terminal.line (staged.row Rgb.faded))
      (fun history => ⟨_, shows_row Rgb.scales_faded history, line_eq _⟩) requests,
      fun outlet => ?_⟩
    rw [Request.foldl_carryOut_eq, List.foldl_map]
    exact (Screen.driver _ n).device_foldl _ rfl _
  case stripRow => exact fun s => (Strip.driver _ n).takesRow s
  case screenRow => exact fun s => (Screen.driver _ n).takesRow s

end LedAnimation
