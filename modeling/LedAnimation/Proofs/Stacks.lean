/-
  Stacks of frames.

  A stack shows at every position its topmost lit pixel (`topmost`), and it does so however its
  frames are brought together: a `Stack` is a tree of merges over its `frames`, the lowest one
  first.  The step is one merge, where the upper colours lie on the lower ones (`topmost_append`);
  the rest is induction on the tree.  So the order in which an effect merges its layers around the
  base does not matter, only the order in which they lie on each other.

  Rows of different lengths follow the rule as far as both reach.
-/
import LedAnimation.Effect.Layers

namespace LedAnimation

variable {n : Nat}

/-! ## The topmost lit colour -/

/-- The colour seen of several that lie on each other, the lowest one first. -/
def topmost (colors : List Rgb) : Rgb := (colors.filter (· ≠ off)).getLast?.getD off

/-- A single colour is seen as it is, dark or lit. -/
theorem topmost_singleton (c : Rgb) : topmost [c] = c := by
  by_cases h : c = off <;> simp [topmost, h]

/-- What is seen of the upper ones lies on what is seen of the lower ones. -/
theorem topmost_append (lower upper : List Rgb) :
    topmost (lower ++ upper) = (topmost upper).onto (topmost lower) := by
  unfold topmost
  rw [List.filter_append, List.getLast?_append]
  cases hupper : (upper.filter (· ≠ off)).getLast? with
  | none => simp
  | some c =>
    have hlit : c ≠ off := by
      have hmem := List.mem_of_getLast? hupper
      simpa using (List.mem_filter.1 hmem).2
    simp [Rgb.onto, hlit]

/-- Of two, the upper one is seen unless it is dark: the case of a single merge. -/
theorem topmost_pair (under layer : Rgb) : topmost [under, layer] = layer.onto under := by
  have happend := topmost_append [under] [layer]
  rw [topmost_singleton, topmost_singleton] at happend
  exact happend

/-! ## Merging -/

/-- Darkness may lie below any frame, -/
theorem Frame.dark_merge (frame : Frame n) : (Frame.dark n).merge frame = frame := by
  ext i h
  rw [Frame.getElem_merge, Frame.getElem_dark, Rgb.onto_off]

/-- or above it, and is not seen. -/
theorem Frame.merge_dark (frame : Frame n) : frame.merge (Frame.dark n) = frame := by
  ext i h
  rw [Frame.getElem_merge, Frame.getElem_dark, Rgb.off_onto]

/-- **Merging is associative**, so the brackets of a stack do not matter. -/
theorem Frame.merge_assoc (lower middle upper : Frame n) :
    (lower.merge middle).merge upper = lower.merge (middle.merge upper) := by
  ext i h
  rw [Frame.getElem_merge, Frame.getElem_merge, Frame.getElem_merge, Frame.getElem_merge,
    Rgb.onto_assoc]

/-- Frames that are merged in some order of the merges. -/
inductive Stack (n : Nat) where
  | frame (frame : Frame n)
  | merge (lower upper : Stack n)

namespace Stack

/-- The frames, the lowest one first. -/
def frames : Stack n → List (Frame n)
  | .frame f => [f]
  | .merge lower upper => lower.frames ++ upper.frames

/-- The frame that comes of all merges. -/
def merged : Stack n → Frame n
  | .frame f => f
  | .merge lower upper => lower.merged.merge upper.merged

/-- **A stack shows its topmost lit pixels**, in whatever order it is merged. -/
theorem getElem_merged (stack : Stack n) (i : Nat) (h : i < n) :
    stack.merged[i] = topmost (stack.frames.map fun f => f[i]) := by
  induction stack with
  | frame f => exact (topmost_singleton f[i]).symm
  | merge lower upper ihLower ihUpper =>
    rw [merged, Frame.getElem_merge, ihLower, ihUpper, frames, List.map_append, topmost_append]

/-- Every list of frames that is not empty can be merged. -/
theorem exists_frames_eq (first : Frame n) (rest : List (Frame n)) :
    ∃ stack : Stack n, stack.frames = first :: rest := by
  induction rest generalizing first with
  | nil => exact ⟨.frame first, rfl⟩
  | cons second rest ih =>
    obtain ⟨stack, hframes⟩ := ih second
    exact ⟨.merge (.frame first) stack, by rw [frames, hframes]; rfl⟩

end Stack

/-! ## Rows of any length -/

/-- Of two rows, each position shows its topmost lit colour as far as the lower row reaches.  The
    induction is the one of the merge itself. -/
theorem getElem?_mergeRow (lower upper : List Rgb) (i : Nat) :
    (mergeRow lower upper)[i]?
      = lower[i]?.map fun under => topmost (under :: upper[i]?.toList) := by
  fun_induction mergeRow lower upper generalizing i with
  | case1 under lower layer upper ih =>
    cases i with
    | zero => exact congrArg some (topmost_pair under layer).symm
    | succ i => exact ih i
  | case2 lower upper hshort =>
    -- one of the two rows has ended, so nothing lies on what is left of the lower one
    cases lower with
    | nil => rfl
    | cons under lower =>
      obtain rfl : upper = [] := by
        cases upper with
        | nil => rfl
        | cons layer upper => exact absurd rfl (hshort under lower layer upper rfl)
      simp [topmost_singleton]

/-- Frames are rows of one length, and are merged as rows are. -/
theorem mergeRow_toList (lower upper : Frame n) :
    mergeRow lower.toList upper.toList = (lower.merge upper).toList := by
  apply List.ext_getElem?
  intro i
  rw [getElem?_mergeRow]
  by_cases h : i < n
  · simp [h, topmost_pair]
  · simp [h]

/-! ## Layers -/

/-- The layers around a base frame, the lowest one first. -/
def Layers.pile (base : Frame n) (under upper : Option (Frame n)) : List (Frame n) :=
  under.toList ++ base :: upper.toList

/-- The layers around a base are a stack of up to three frames.  Which of them are merged first
    makes no difference. -/
theorem Layers.getElem_stack (base : Frame n) (under upper : Option (Frame n)) (i : Nat)
    (h : i < n) :
    (stack base under upper none)[i] = topmost ((pile base under upper).map fun f => f[i]) := by
  cases under with
  | none =>
    cases upper with
    | none => exact (Stack.frame base).getElem_merged i h
    | some upper => exact (Stack.merge (.frame base) (.frame upper)).getElem_merged i h
  | some below =>
    cases upper with
    | none => exact (Stack.merge (.frame below) (.frame base)).getElem_merged i h
    | some upper =>
      exact (Stack.merge (.merge (.frame below) (.frame base)) (.frame upper)).getElem_merged i h

/-! ## What is promised -/

/-- What there is to say of laying frames and rows on each other. -/
structure Covering (n : Nat) : Prop where
  /-- Every list of frames but the empty one can be merged, -/
  mergeable : ∀ frames : List (Frame n), frames ≠ [] → ∃ stack : Stack n, stack.frames = frames
  /-- and however that is done, the topmost lit pixel is seen at every position. -/
  topmostLit : ∀ (stack : Stack n) i (h : i < n),
    stack.merged[i] = topmost (stack.frames.map fun f => f[i])
  anyOrder : ∀ s t : Stack n, s.frames = t.frames → s.merged = t.merged
  assoc : ∀ lower middle upper : Frame n,
    (lower.merge middle).merge upper = lower.merge (middle.merge upper)
  /-- A dark frame is not seen, neither below -/
  darkBelow : ∀ frame : Frame n, (Frame.dark n).merge frame = frame
  /-- nor above. -/
  darkAbove : ∀ frame : Frame n, frame.merge (Frame.dark n) = frame
  /-- An effect lays its underlay below the base and its overlay above it, -/
  layers : ∀ (base : Frame n) under upper i (h : i < n),
    (Layers.stack base under upper none)[i]
      = topmost ((Layers.pile base under upper).map fun f => f[i])
  /-- and an overwrite is all that is seen. -/
  overwrite : ∀ (base : Frame n) under upper whole,
    Layers.stack base under upper (some whole) = whole
  /-- A row keeps its length, whatever is laid on it. -/
  rowLength : ∀ lower upper, (mergeRow lower upper).length = lower.length
  /-- As far as both rows reach, the topmost lit pixel is seen, -/
  rowCovered : ∀ (lower upper : List Rgb) i (hl : i < lower.length) (hu : i < upper.length),
    (mergeRow lower upper)[i]? = some (topmost [lower[i], upper[i]])
  /-- and beyond that the lower row is as it was. -/
  rowKept : ∀ (lower upper : List Rgb) i, upper.length ≤ i →
    (mergeRow lower upper)[i]? = lower[i]?
  /-- Rows of one length are merged as frames are. -/
  rowOfFrame : ∀ lower upper : Frame n,
    mergeRow lower.toList upper.toList = (lower.merge upper).toList

/-- **Stacks show their topmost lit pixels.** -/
theorem stacks_show_topmost (n : Nat) : Covering n := by
  constructor
  case mergeable =>
    intro frames hframes
    cases frames with
    | nil => exact absurd rfl hframes
    | cons first rest => exact Stack.exists_frames_eq first rest
  case topmostLit => exact Stack.getElem_merged
  -- what a stack shows depends on its frames alone
  case anyOrder =>
    intro s t hframes
    ext i h : 1
    rw [s.getElem_merged i h, t.getElem_merged i h, hframes]
  case assoc => exact Frame.merge_assoc
  case darkBelow => exact Frame.dark_merge
  case darkAbove => exact Frame.merge_dark
  case layers => exact Layers.getElem_stack
  case overwrite => exact fun _ _ _ _ => rfl
  case rowLength => exact length_mergeRow
  case rowCovered =>
    intro lower upper i hl hu
    rw [getElem?_mergeRow, List.getElem?_eq_getElem hl, List.getElem?_eq_getElem hu]
    rfl
  case rowKept =>
    intro lower upper i hu
    rw [getElem?_mergeRow, List.getElem?_eq_none hu]
    cases lower[i]? with
    | none => rfl
    | some under => exact congrArg some (topmost_singleton under)
  case rowOfFrame => exact mergeRow_toList

/-- A blue pixel shows through a dark one, and the end of a row through nothing. -/
example : mergeRow [⟨0, 0, 9⟩, ⟨0, 0, 9⟩, ⟨0, 0, 9⟩] [off, ⟨9, 0, 0⟩]
    = [⟨0, 0, 9⟩, ⟨9, 0, 0⟩, ⟨0, 0, 9⟩] := by decide

end LedAnimation
