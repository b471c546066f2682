/-
  A sprite loses no pixel.

  An image is cut at positions of the flat list of its pixels, and a piece that runs over the end of
  the list is left out without a word.  Here the frames are told by columns and rows:

  * `Fits`      — the shapes that are cut at all;
  * `Corrects`  — what correction makes of a colour, channel by channel, as the entries of the table
    have it;
  * `cutout`    — the pixels of one row of an image from a column on, each of them corrected;
  * `cutouts`   — the frames of a layout: every row of a grid, and in a single row a cutout at every
    column that has one.

  The pixel in a column of a row stands at `row * width + column` of the flat list.  So a piece that
  ends in the row where it begins is the cutout there (`slice?_eq_cutout`), and all the pieces that
  a layout asks for do end in the row where they begin.
-/
import LedAnimation.Proofs.Effect.Reliability
import LedAnimation.Sprite

namespace LedAnimation

namespace Sprite

/-! ## Shapes -/

/-- The shapes that are cut into frames of `n` pixels: a single row that is long enough, and several
    rows of the right length. -/
def Fits (n width height : Nat) : Prop :=
  0 < n ∧ (height = 1 ∧ n ≤ width ∨ 1 < height ∧ width = n)

/-- An image that fits has pixels. -/
theorem Fits.pixels {n width height : Nat} (h : Fits n width height) :
    ¬ (width = 0 ∨ height = 0) := by
  obtain ⟨hn, hshape⟩ := h
  omega

/-- What fits is cut, by rows or along its only row, -/
theorem layout_of_fits {n width height : Nat} (h : Fits n width height) :
    layout n width height = .ok (if height = 1 then .scroll else .grid) := by
  rw [layout, if_neg h.pixels]
  obtain ⟨hn, hshape⟩ := h
  rw [if_neg (by omega)]
  by_cases hrow : height = 1
  · rw [if_pos hrow, if_pos hrow, if_pos (by omega)]
  · rw [if_neg hrow, if_neg hrow, if_pos (by omega)]

/-- and what has pixels but does not fit is refused, whichever of the checks stops it. -/
theorem layout_of_not_fits {n width height : Nat} (hpixels : ¬ (width = 0 ∨ height = 0))
    (h : ¬ Fits n width height) :
    layout n width height = .error (.widthMismatch width height n) := by
  unfold Fits at h
  rw [layout, if_neg hpixels]
  by_cases hn : n = 0
  · rw [if_pos hn]
  · rw [if_neg hn]
    by_cases hrow : height = 1
    · rw [if_pos hrow, if_neg (by omega)]
    · rw [if_neg hrow, if_neg (by omega)]

/-- The first check is the one for pixels. -/
theorem layout_eq_emptyImage_iff {n width height : Nat} :
    layout n width height = .error .emptyImage ↔ width = 0 ∨ height = 0 := by
  by_cases hpixels : width = 0 ∨ height = 0
  · rw [layout, if_pos hpixels]
    exact iff_of_true rfl hpixels
  · refine iff_of_false (fun h => ?_) hpixels
    by_cases hfits : Fits n width height
    · rw [layout_of_fits hfits] at h
      exact nomatch h
    · rw [layout_of_not_fits hpixels hfits] at h
      exact nomatch h

/-- So an image is cut exactly if it fits, and how is told by its height alone. -/
theorem layout_eq_ok_iff {n width height : Nat} {way : Layout} :
    layout n width height = .ok way ↔
      Fits n width height ∧ (way = .scroll ↔ height = 1) := by
  by_cases hfits : Fits n width height
  · rw [layout_of_fits hfits, Except.ok.injEq, and_iff_right hfits]
    by_cases hrow : height = 1 <;> cases way <;> simp [hrow]
  · refine iff_of_false (fun h => ?_) fun h => hfits h.1
    by_cases hpixels : width = 0 ∨ height = 0
    · rw [layout_eq_emptyImage_iff.2 hpixels] at h
      exact nomatch h
    · rw [layout_of_not_fits hpixels hfits] at h
      exact nomatch h

/-- Of the shapes that have pixels, these do not fit. -/
theorem layout_eq_mismatch_iff {n width height : Nat} {w h e : Nat} :
    layout n width height = .error (.widthMismatch w h e) ↔
      (w = width ∧ h = height ∧ e = n) ∧ (width ≠ 0 ∧ height ≠ 0) ∧
        (n = 0 ∨ height = 1 ∧ width < n ∨ 1 < height ∧ width ≠ n) := by
  by_cases hpixels : width = 0 ∨ height = 0
  · rw [layout_eq_emptyImage_iff.2 hpixels]
    exact iff_of_false (fun h => nomatch h) (by omega)
  · by_cases hfits : Fits n width height
    · rw [layout_of_fits hfits]
      unfold Fits at hfits
      exact iff_of_false (fun h => nomatch h) (by omega)
    · rw [layout_of_not_fits hpixels hfits, Except.error.injEq, SpriteError.widthMismatch.injEq]
      unfold Fits at hfits
      omega

/-! ## Correction -/

/-- The level that is shown for a level: the entry of the table for it, or without a table the level
    itself. -/
def Sends : Option GammaTable → UInt8 → UInt8 → Prop
  | some table, level, shown => table.levels[level.toNat]? = some shown
  | none, level, shown => shown = level

/-- The colour that is shown for a colour: every channel goes through the table by itself. -/
structure Corrects (gamma : Option GammaTable) (c shown : Rgb) : Prop where
  red : Sends gamma c.r shown.r
  green : Sends gamma c.g shown.g
  blue : Sends gamma c.b shown.b

/-- A colour as the table corrects it, if there is one. -/
def corrected (gamma : Option GammaTable) (c : Rgb) : Rgb :=
  match gamma with
  | some table => table.correct c
  | none => c

/-- A table has an entry for every level, and that is what it is applied for. -/
theorem sends_apply (table : GammaTable) (level : UInt8) :
    Sends (some table) level (table.apply level) := by
  rw [Sends, Vector.getElem?_eq_getElem level.toNat_lt]
  rfl

/-- Correction does what is asked of it, to each of the three channels. -/
theorem corrects_corrected (gamma : Option GammaTable) (c : Rgb) :
    Corrects gamma c (corrected gamma c) := by
  cases gamma with
  | none => exact ⟨rfl, rfl, rfl⟩
  | some table => exact ⟨sends_apply table c.r, sends_apply table c.g, sends_apply table c.b⟩

/-! ## Pieces of the flat list -/

/-- The `n` pixels of a row of an image from a column on, each of them corrected. -/
def cutout (n : Nat) (image : Image) (gamma : Option GammaTable) (column row : Nat) : Frame n :=
  Vector.ofFn fun i => corrected gamma (image.pixel (column + i) row)

/-- Colours can be corrected at any time. -/
theorem map_corrected_cutout (n : Nat) (image : Image) (gamma : Option GammaTable)
    (column row : Nat) :
    (cutout n image none column row).map (corrected gamma) = cutout n image gamma column row := by
  ext i hi : 1
  simp [cutout, corrected]

/-- Every pixel of a cutout is what the table makes of its pixel of the image. -/
theorem corrects_cutout (n : Nat) (image : Image) (gamma : Option GammaTable) (column row : Nat)
    {i : Nat} (hi : i < n) :
    Corrects gamma (image.pixel (column + i) row) (cutout n image gamma column row)[i] := by
  rw [cutout, Vector.getElem_ofFn]
  exact corrects_corrected gamma _

/-- All pixels of an image, corrected, in one list. -/
def flat (image : Image) (gamma : Option GammaTable) : Array Rgb :=
  image.pixels.map (corrected gamma)

@[simp] theorem size_flat (image : Image) (gamma : Option GammaTable) :
    (flat image gamma).size = image.width * image.height := by
  simp [flat, image.size_pixels]

/-- A place in a row of the image is a place in the list. -/
theorem place_lt {image : Image} {column row : Nat} (hcolumn : column < image.width)
    (hrow : row < image.height) : row * image.width + column < image.pixels.size := by
  have hrows : (row + 1) * image.width ≤ image.height * image.width := Nat.mul_le_mul_right _ hrow
  rw [image.size_pixels, Nat.mul_comm image.width]
  rw [Nat.succ_mul] at hrows
  omega

/-- The pixel in a column of a row, in the list. -/
theorem getElem?_place {image : Image} {column row : Nat} (hcolumn : column < image.width)
    (hrow : row < image.height) :
    image.pixels[row * image.width + column]? = some (image.pixel column row) := by
  rw [Image.pixel, Array.getElem?_eq_getElem (place_lt hcolumn hrow), Option.getD_some]

/-- **A piece that ends in the row where it begins** is there, and is the cutout. -/
theorem slice?_eq_cutout {n : Nat} {image : Image} {column row : Nat} (gamma : Option GammaTable)
    (hn : 0 < n) (hcolumn : column + n ≤ image.width) (hrow : row < image.height) :
    slice? n (flat image gamma) (row * image.width + column)
      = some (cutout n image gamma column row) := by
  have hlast := place_lt (show column + (n - 1) < image.width by omega) hrow
  rw [image.size_pixels] at hlast
  rw [slice?, dif_pos (by rw [size_flat]; omega)]
  congr 1
  ext i hi : 1
  -- the piece lies in the list, and its pixels are compared one by one
  have hplace := getElem?_place (show column + i < image.width by omega) hrow
  rw [← Nat.add_assoc] at hplace
  have hget := (Array.getElem?_eq_some_iff.1 hplace).2
  simp [cutout, flat, hget]

/-! ## All pieces of a layout -/

/-- The frames of a layout. -/
def cutouts (n : Nat) (image : Image) (gamma : Option GammaTable) : Layout → List (Frame n)
  | .grid => (List.range image.height).map fun row => cutout n image gamma 0 row
  | .scroll => (List.range (image.width - n + 1)).map fun column => cutout n image gamma column 0

/-- Where the pieces of a layout begin in the list. -/
def starts (n width height : Nat) : Layout → List Nat
  | .grid => (List.range height).map (· * n)
  | .scroll => List.range (width - n + 1)

/-- **No piece is left out**: every one that a layout asks for is there. -/
theorem map_slice?_starts {n : Nat} {image : Image} (gamma : Option GammaTable) {way : Layout}
    (h : layout n image.width image.height = .ok way) :
    (starts n image.width image.height way).map (slice? n (flat image gamma))
      = (cutouts n image gamma way).map some := by
  obtain ⟨⟨hn, hshape⟩, hway⟩ := layout_eq_ok_iff.1 h
  cases way with
  | grid =>
    -- a row of a grid begins where the row before it ends
    have hrows : image.height ≠ 1 := by simpa using hway
    have hwidth : image.width = n := by omega
    rw [starts, cutouts, List.map_map, List.map_map]
    refine List.map_congr_left fun row hrow => ?_
    have hpiece := slice?_eq_cutout gamma hn (show 0 + n ≤ image.width by omega)
      (List.mem_range.1 hrow)
    rw [hwidth] at hpiece
    exact hpiece
  | scroll =>
    -- in a single row, a window begins at every column that has `n` pixels from there on
    have hsingle : image.height = 1 := hway.1 rfl
    rw [starts, cutouts, List.map_map]
    refine List.map_congr_left fun column hcolumn => ?_
    have hlast := List.mem_range.1 hcolumn
    have hpiece := slice?_eq_cutout gamma hn (show column + n ≤ image.width by omega)
      (show 0 < image.height by omega)
    rw [Nat.zero_mul, Nat.zero_add] at hpiece
    exact hpiece

/-- None of them is missing. -/
theorem isSome_slice?_of_mem_starts {n : Nat} {image : Image} (gamma : Option GammaTable)
    {way : Layout} (h : layout n image.width image.height = .ok way) {start : Nat}
    (hstart : start ∈ starts n image.width image.height way) :
    (slice? n (flat image gamma) start).isSome = true := by
  have hpiece := List.mem_map_of_mem (f := slice? n (flat image gamma)) hstart
  rw [map_slice?_starts gamma h] at hpiece
  obtain ⟨frame, -, hframe⟩ := List.mem_map.1 hpiece
  rw [← hframe]
  rfl

/-- So it makes no difference that missing pieces would be left out. -/
theorem filterMap_slice?_starts {n : Nat} {image : Image} (gamma : Option GammaTable) {way : Layout}
    (h : layout n image.width image.height = .ok way) :
    (starts n image.width image.height way).filterMap (slice? n (flat image gamma))
      = cutouts n image gamma way := by
  show List.filterMap (id ∘ slice? n (flat image gamma)) _ = _
  rw [← List.filterMap_map, map_slice?_starts gamma h, List.filterMap_map]
  exact List.filterMap_some ..

/-- The rows of a grid are its cutouts, -/
theorem rows_flat {n : Nat} {image : Image} (gamma : Option GammaTable)
    (h : layout n image.width image.height = .ok .grid) :
    rows n (flat image gamma) = cutouts n image gamma .grid := by
  obtain ⟨⟨hn, hshape⟩, hway⟩ := layout_eq_ok_iff.1 h
  have hrows : image.height ≠ 1 := by simpa using hway
  have hwidth : image.width = n := by omega
  rw [← filterMap_slice?_starts gamma h, rows, size_flat, hwidth, Nat.mul_div_cancel_left _ hn,
    starts, List.filterMap_map]
  rfl

/-- and the windows of a single row are. -/
theorem windows_flat {n : Nat} {image : Image} (gamma : Option GammaTable)
    (h : layout n image.width image.height = .ok .scroll) :
    windows n (flat image gamma) = cutouts n image gamma .scroll := by
  obtain ⟨⟨hn, hshape⟩, hway⟩ := layout_eq_ok_iff.1 h
  have hsingle : image.height = 1 := hway.1 rfl
  have hcount : image.width + 1 - n = image.width - n + 1 := by omega
  rw [← filterMap_slice?_starts gamma h, windows, size_flat, hsingle, Nat.mul_one, hcount, starts]

/-- Without a table the pixels stay as they are. -/
theorem flat_none (image : Image) : flat image none = image.pixels := Array.map_id _

/-- **Decoding, whole.** -/
theorem value_decode (n : Nat) (image : Image) (gamma : Option GammaTable) :
    (decode n image gamma).value
      = (layout n image.width image.height).map (cutouts n image gamma) := by
  cases hlayout : layout n image.width image.height with
  | error fault =>
    unfold decode
    rw [hlayout]
    rfl
  | ok way =>
    unfold decode
    rw [hlayout]
    cases way with
    | grid =>
      have hrows := rows_flat gamma hlayout
      cases gamma with
      | none => exact congrArg Except.ok (flat_none image ▸ hrows)
      | some table => exact congrArg Except.ok hrows
    | scroll =>
      have hwindows := windows_flat gamma hlayout
      cases gamma with
      | none => exact congrArg Except.ok (flat_none image ▸ hwindows)
      | some table => exact congrArg Except.ok hwindows

/-! ## What is promised -/

/-- What there is to say of decoding an image. -/
structure Decoded (n : Nat) (image : Image) (gamma : Option GammaTable) : Prop where
  /-- An image without pixels is refused, -/
  empty : (decode n image gamma).value = .error .emptyImage ↔ image.width = 0 ∨ image.height = 0
  /-- and of the others those whose rows do not fit the strip; its size is named. -/
  mismatch : ∀ width height expected,
    (decode n image gamma).value = .error (.widthMismatch width height expected) ↔
      (width = image.width ∧ height = image.height ∧ expected = n) ∧
        (image.width ≠ 0 ∧ image.height ≠ 0) ∧
          (n = 0 ∨ image.height = 1 ∧ image.width < n ∨ 1 < image.height ∧ image.width ≠ n)
  /-- Several rows are one frame each, from the top down. -/
  grid : 0 < n → image.width = n → 1 < image.height →
    ∃ frames, (decode n image gamma).value = .ok frames ∧ frames.length = image.height ∧
      ∀ y x (hy : y < frames.length) (hx : x < n),
        Corrects gamma (image.pixel x y) frames[y][x]
  /-- A single row is seen through a window that starts at its left end and ends at its right. -/
  scroll : 0 < n → n ≤ image.width → image.height = 1 →
    ∃ frames, (decode n image gamma).value = .ok frames ∧ frames.length = image.width - n + 1 ∧
      ∀ i j (hi : i < frames.length) (hj : j < n),
        Corrects gamma (image.pixel (i + j) 0) frames[i][j]
  /-- None of the pieces that are asked for is missing. -/
  complete : ∀ way, layout n image.width image.height = .ok way →
    ∀ start ∈ starts n image.width image.height way, (slice? n (flat image gamma) start).isSome
  /-- It makes no difference whether colours are corrected before the image is cut or after, -/
  correctedLater : (decode n image gamma).value
    = (decode n image none).value.map fun frames => frames.map fun f => f.map (corrected gamma)
  /-- and correcting a colour is looking its channels up. -/
  lookedUp : ∀ c, Corrects gamma c (corrected gamma c)
  /-- The script of a sprite is refused for the same reasons, -/
  refusedAlike : ∀ fault, (script n image gamma).value = .error fault ↔
    (decode n image gamma).value = .error fault
  /-- and otherwise is a static one that shows these frames and never is too empty for an effect. -/
  playable : ∀ made, (script n image gamma).value = .ok made →
    (decode n image gamma).value = .ok made.stills ∧ made.isEmpty = false ∧
      made.isDynamic = false ∧
        ∀ config entropy, (Effect.start made config entropy).value ≠ .error (.script .empty)

/-- The frames of a script are those it is made of, -/
theorem stills_ofFrames {n : Nat} (frames : List (Frame n)) :
    (Script.ofFrames frames).stills = frames := by
  rw [Script.stills, Script.ofFrames, List.filterMap_map]
  exact List.filterMap_some ..

/-- and frames are no actions. -/
theorem isDynamic_ofFrames {n : Nat} (frames : List (Frame n)) :
    (Script.ofFrames frames).isDynamic = false := by
  simp [Script.isDynamic, Script.ofFrames, Entry.isAction]

/-- A sprite that fits has a frame: a grid has a row, and a single row has a window at its left
    end. -/
theorem cutouts_ne_nil {n : Nat} {image : Image} (gamma : Option GammaTable) {way : Layout}
    (h : layout n image.width image.height = .ok way) : cutouts n image gamma way ≠ [] := by
  have hpixels := (layout_eq_ok_iff.1 h).1.pixels
  intro hnil
  have hlength := congrArg List.length hnil
  cases way
  all_goals
    rw [cutouts, List.length_map, List.length_range, List.length_nil] at hlength
    omega

/-- So the script of a sprite has a frame to play. -/
theorem isEmpty_cutouts {n : Nat} {image : Image} (gamma : Option GammaTable) {way : Layout}
    (h : layout n image.width image.height = .ok way) :
    (Script.ofFrames (cutouts n image gamma way)).isEmpty = false := by
  have hframes := cutouts_ne_nil gamma h
  simpa [Script.isEmpty, Script.ofFrames] using hframes

/-- Only a script without entries is too empty for an effect. -/
theorem start_ne_empty {n : Nat} {made : Script n} (h : made.isEmpty = false) (config : Config n)
    (entropy : UInt64) : (Effect.start made config entropy).value ≠ .error (.script .empty) := by
  intro hempty
  have hfault := (Effect.start_eq_error_iff ..).1 hempty
  have hlength : made.length ≠ 0 := by
    intro hzero
    rw [Script.isEmpty, List.isEmpty_iff_length_eq_zero.2 hzero] at h
    cases h
  rw [setupFault?, if_neg hlength] at hfault
  by_cases hfps : config.fps = 0
  · rw [if_pos hfps] at hfault
    cases hfault
  · rw [if_neg hfps] at hfault
    split at hfault <;> cases hfault

/-- The script of a sprite is made of its frames. -/
theorem value_script (n : Nat) (image : Image) (gamma : Option GammaTable) :
    (script n image gamma).value = (decode n image gamma).value.map Script.ofFrames := rfl

/-- A sprite that is made has a layout, and shows the cutouts of it. -/
theorem exists_layout_of_script {n : Nat} {image : Image} {gamma : Option GammaTable}
    {made : Script n} (h : (script n image gamma).value = .ok made) :
    ∃ way, layout n image.width image.height = .ok way ∧
      made = Script.ofFrames (cutouts n image gamma way) := by
  rw [value_script, value_decode] at h
  cases hlayout : layout n image.width image.height with
  | error fault =>
    rw [hlayout] at h
    exact nomatch h
  | ok way =>
    rw [hlayout] at h
    exact ⟨way, rfl, (Except.ok.inj h).symm⟩

/-- **A sprite loses no pixel**: every image that fits the strip is cut into all of its frames, in
    order, and every other image is refused. -/
theorem decode_loses_no_pixel (n : Nat) (image : Image) (gamma : Option GammaTable) :
    Decoded n image gamma := by
  constructor
  -- each clause reads the outcome off `value_decode`, by cases of the layout
  case empty =>
    rw [value_decode, ← layout_eq_emptyImage_iff (n := n)]
    cases layout n image.width image.height <;> simp [Except.map]
  case mismatch =>
    intro width height expected
    rw [value_decode, ← layout_eq_mismatch_iff]
    cases layout n image.width image.height <;> simp [Except.map]
  case grid =>
    intro hn hwidth hrows
    have hlayout : layout n image.width image.height = .ok .grid :=
      layout_eq_ok_iff.2 ⟨⟨hn, .inr ⟨hrows, hwidth⟩⟩, by simp; omega⟩
    refine ⟨_, by rw [value_decode, hlayout]; rfl, by simp [cutouts], fun y x hy hx => ?_⟩
    have hpixel := corrects_cutout n image gamma 0 y hx
    simpa [cutouts] using hpixel
  case scroll =>
    intro hn hwidth hsingle
    have hlayout : layout n image.width image.height = .ok .scroll :=
      layout_eq_ok_iff.2 ⟨⟨hn, .inl ⟨hsingle, hwidth⟩⟩, iff_of_true rfl hsingle⟩
    refine ⟨_, by rw [value_decode, hlayout]; rfl, by simp [cutouts], fun i j hi hj => ?_⟩
    have hpixel := corrects_cutout n image gamma i 0 hj
    simpa [cutouts] using hpixel
  case complete =>
    intro way hlayout start hstart
    exact isSome_slice?_of_mem_starts gamma hlayout hstart
  case correctedLater =>
    rw [value_decode, value_decode]
    cases layout n image.width image.height with
    | error fault => rfl
    | ok way =>
      refine congrArg Except.ok ?_
      cases way <;> simp [cutouts, map_corrected_cutout, Function.comp_def]
  case lookedUp => exact corrects_corrected gamma
  case refusedAlike =>
    intro fault
    rw [value_script]
    cases (decode n image gamma).value <;> simp [Except.map]
  case playable =>
    intro made hmade
    obtain ⟨way, hlayout, rfl⟩ := exists_layout_of_script hmade
    have hempty := isEmpty_cutouts gamma hlayout
    refine ⟨?_, hempty, isDynamic_ofFrames _, start_ne_empty hempty⟩
    rw [value_decode, hlayout, stills_ofFrames]
    rfl

/-- A window of two on a row of three, and three rows of two. -/
example :
    (decode 2 (.generate 3 1 fun x _ => ⟨x.toUInt8, 0, 7⟩) none).value
        = .ok [#v[⟨0, 0, 7⟩, ⟨1, 0, 7⟩], #v[⟨1, 0, 7⟩, ⟨2, 0, 7⟩]] ∧
      (decode 2 (.generate 2 3 fun x y => ⟨x.toUInt8, y.toUInt8, 7⟩) none).value
        = .ok [#v[⟨0, 0, 7⟩, ⟨1, 0, 7⟩], #v[⟨0, 1, 7⟩, ⟨1, 1, 7⟩], #v[⟨0, 2, 7⟩, ⟨1, 2, 7⟩]] :=
  ⟨rfl, rfl⟩

end Sprite

end LedAnimation
