import FixBindings.Proofs.SourceLines

/-!
# Braces and the classes between them

The structure of a source text shows in its braces alone.  `braceDepth` counts how many are open,
and `readClasses?` recovers the inner classes from a text with nothing but a stack: a line that
begins with `public static class` opens a class at the depth of that line, and the brace that leads
back to this depth closes it.

`Nested` describes the texts in which this works: lines without braces or with braces in pairs, and
blocks, each between a line that ends in an opening brace and one that ends in a closing brace.
For such lines the depth comes back to where it was and never falls below (`Nested.balanced`), and
reading them adds their classes to those read before and leaves the stack as it was
(`Nested.foldl_readLine`).
-/

set_option autoImplicit false

namespace FixBindings
namespace Java

/-! ## Depth -/

/-- What a character adds to the number of open braces. -/
def braceWeight (c : Char) : Int :=
  if c = '\x7b' then 1 else if c = '\x7d' then -1 else 0

/-- The number of braces that a text opens and does not close. -/
def braceDepth : List Char → Int
  | [] => 0
  | c :: cs => braceWeight c + braceDepth cs

@[simp] theorem braceDepth_nil : braceDepth [] = 0 := rfl

@[simp] theorem braceDepth_cons (c : Char) (cs : List Char) :
    braceDepth (c :: cs) = braceWeight c + braceDepth cs := rfl

@[simp] theorem braceDepth_append (xs ys : List Char) :
    braceDepth (xs ++ ys) = braceDepth xs + braceDepth ys := by
  induction xs with
  | nil => simp
  | cons c rest ih => rw [List.cons_append, braceDepth_cons, ih, braceDepth_cons, Int.add_assoc]

/-- The depth is at least `n` after each character of a text, and at its beginning. -/
def StaysAbove (n : Int) (cs : List Char) : Prop := ∀ p, p <+: cs → n ≤ braceDepth p

theorem staysAbove_nil {n : Int} : StaysAbove n [] ↔ n ≤ 0 := by
  constructor
  · exact fun h => h [] List.prefix_rfl
  · intro h p hp
    rw [List.prefix_nil.1 hp]
    exact h

theorem staysAbove_cons {n : Int} {c : Char} {cs : List Char} :
    StaysAbove n (c :: cs) ↔ n ≤ 0 ∧ StaysAbove (n - braceWeight c) cs := by
  constructor
  · intro h
    refine ⟨h [] List.nil_prefix, fun p hp => ?_⟩
    have longer := h (c :: p) (List.cons_prefix_cons.2 ⟨rfl, hp⟩)
    rw [braceDepth_cons] at longer
    omega
  · rintro ⟨start, later⟩ p hp
    rcases List.prefix_cons_iff.1 hp with rfl | ⟨q, rfl, hq⟩
    · exact start
    · have above := later q hq
      rw [braceDepth_cons]
      omega

theorem staysAbove_append {n : Int} {xs ys : List Char} :
    StaysAbove n (xs ++ ys) ↔ StaysAbove n xs ∧ StaysAbove (n - braceDepth xs) ys := by
  induction xs generalizing n with
  | nil =>
    rw [List.nil_append, braceDepth_nil, Int.sub_zero, staysAbove_nil]
    exact ⟨fun h => ⟨h [] List.nil_prefix, h⟩, And.right⟩
  | cons c rest ih =>
    rw [List.cons_append, staysAbove_cons, ih, staysAbove_cons, braceDepth_cons, and_assoc,
      Int.sub_sub]

theorem StaysAbove.mono {m n : Int} {cs : List Char} (h : StaysAbove n cs) (le : m ≤ n) :
    StaysAbove m cs := fun p hp => Int.le_trans le (h p hp)

/-- A text that stays within its line and has no braces. -/
def IsPlain (s : String) : Prop := ∀ c ∈ s.toList, c ≠ '\x7b' ∧ c ≠ '\x7d' ∧ c ≠ '\n'

instance (s : String) : Decidable (IsPlain s) := List.decidableBAll _ s.toList

@[simp] theorem isPlain_append {s t : String} : IsPlain (s ++ t) ↔ IsPlain s ∧ IsPlain t := by
  simp only [IsPlain, String.toList_append, List.mem_append]
  exact ⟨fun h => ⟨fun c hc => h c (Or.inl hc), fun c hc => h c (Or.inr hc)⟩,
    fun h c hc => hc.elim (h.1 c) (h.2 c)⟩

theorem IsPlain.braceWeight {s : String} (h : IsPlain s) {c : Char} (hc : c ∈ s.toList) :
    braceWeight c = 0 := by
  rw [Java.braceWeight, if_neg (h c hc).1, if_neg (h c hc).2.1]

theorem IsPlain.newline_notMem {s : String} (h : IsPlain s) : '\n' ∉ s.toList :=
  fun hc => (h _ hc).2.2 rfl

/-- A text without braces leaves the depth as it is. -/
theorem braceDepth_of_plain {cs : List Char} (h : ∀ c ∈ cs, braceWeight c = 0) :
    braceDepth cs = 0 := by
  induction cs with
  | nil => rfl
  | cons c rest ih =>
    obtain ⟨first, later⟩ := List.forall_mem_cons.1 h
    rw [braceDepth_cons, first, ih later, Int.add_zero]

theorem IsPlain.depth {s : String} (h : IsPlain s) : braceDepth s.toList = 0 :=
  braceDepth_of_plain fun _ => h.braceWeight

theorem IsPlain.staysAbove {s : String} (h : IsPlain s) : StaysAbove 0 s.toList :=
  fun _ hp => Int.le_of_eq (braceDepth_of_plain fun _ hc => h.braceWeight (hp.subset hc)).symm

/-! ## Reading classes -/

/-- An inner class with those within it. -/
inductive ClassTree where
  | node (name : String) (inner : List ClassTree)

/-- What a line begins with that declares an inner class. -/
def classMark : List Char := staticMark "class "

/-- The name of the inner class that a line declares. -/
def declared? (l : List Char) : Option String :=
  (marked? classMark l).map fun rest => String.ofList (rest.takeWhile (· != ' '))

/-- How far a text has been read. -/
structure Scan where
  /-- The number of open braces. -/
  depth : Int := 0
  /-- The classes that have been read within the class that is being read. -/
  inner : List ClassTree := []
  /-- The classes around, innermost first: the depth outside of a class, its name, and the classes
  that have been read before it in the class around it. -/
  outer : List (Int × String × List ClassTree) := []

namespace Scan

/-- Begins to read a class. -/
def enter (s : Scan) (name : String) : Scan := ⟨s.depth, [], (s.depth, name, s.inner) :: s.outer⟩

/-- Reads a closing brace, which closes a class if it leads back to the depth outside of it. -/
def close (s : Scan) : Scan :=
  match s.outer with
  | (base, name, before) :: outer =>
    if s.depth = base + 1 then ⟨base, before ++ [.node name s.inner], outer⟩
    else { s with depth := s.depth - 1 }
  | [] => { s with depth := s.depth - 1 }

/-- Reads a character. -/
def readChar (s : Scan) (c : Char) : Scan :=
  if c = '\x7b' then { s with depth := s.depth + 1 } else if c = '\x7d' then s.close else s

/-- Reads a line, which may declare a class. -/
def readLine (s : Scan) (l : List Char) : Scan :=
  l.foldl readChar (((declared? l).map s.enter).getD s)

end Scan

/-- The inner classes of a text, if every brace and every class in it is closed. -/
def readClasses? (source : String) : Option (List ClassTree) :=
  match (source.toList.splitOn '\n').foldl Scan.readLine {} with
  | ⟨0, inner, []⟩ => some inner
  | _ => none

/-! ## Lines that nest -/

/-- A line that closes the braces it opens and declares no class. -/
structure Inline (l : String) : Prop where
  newline : '\n' ∉ l.toList
  depth : braceDepth l.toList = 0
  stays : StaysAbove 0 l.toList
  silent : declared? l.toList = none

/-- A line that ends in an opening brace, its only one. -/
def Opens (l : String) : Prop := ∃ front, IsPlain front ∧ l = front ++ "\x7b"

/-- A line that ends in a closing brace, its only one, and declares no class. -/
structure Closes (l : String) : Prop where
  ends : ∃ front, IsPlain front ∧ l = front ++ "\x7d"
  silent : declared? l.toList = none

/-- What a block shows of the classes in it: a class of which they are the inner ones, or themselves
where the block is no class. -/
def shown : Option String → List ClassTree → List ClassTree
  | some name, inner => [.node name inner]
  | none, inner => inner

/-- Lines in which blocks nest, with the classes that they declare. -/
inductive Nested : List String → List ClassTree → Prop
  | nil : Nested [] []
  | line {l : String} {lines : List String} {classes : List ClassTree} (inline : Inline l)
      (rest : Nested lines classes) : Nested (l :: lines) classes
  | block {first last : String} {body lines : List String} {inner classes : List ClassTree}
      (opens : Opens first) (closes : Closes last) (within : Nested body inner)
      (rest : Nested lines classes) :
      Nested (first :: (body ++ last :: lines)) (shown (declared? first.toList) inner ++ classes)

theorem Nested.append {xs ys : List String} {ts us : List ClassTree} (hx : Nested xs ts)
    (hy : Nested ys us) : Nested (xs ++ ys) (ts ++ us) := by
  induction hx with
  | nil => exact hy
  | line inline _ ih => exact .line inline ih
  | block opens closes within _ _ ih =>
    rw [List.cons_append, List.append_assoc, List.cons_append, List.append_assoc]
    exact .block opens closes within ih

/-- Lines nest if none of them opens a block. -/
theorem Nested.inlines {lines : List String} (h : ∀ l ∈ lines, Inline l) : Nested lines [] := by
  induction lines with
  | nil => exact .nil
  | cons l rest ih =>
    exact .line (h l List.mem_cons_self) (ih fun m hm => h m (List.mem_cons_of_mem l hm))

/-! ### Depth of lines -/

theorem toList_openBrace (front : String) : (front ++ "\x7b").toList = front.toList ++ ['\x7b'] :=
  String.toList_append

theorem toList_closeBrace (front : String) : (front ++ "\x7d").toList = front.toList ++ ['\x7d'] :=
  String.toList_append

theorem Opens.newline_notMem {l : String} (h : Opens l) : '\n' ∉ l.toList := by
  obtain ⟨front, plain, rfl⟩ := h
  simp [plain.newline_notMem]

theorem Closes.newline_notMem {l : String} (h : Closes l) : '\n' ∉ l.toList := by
  obtain ⟨front, plain, rfl⟩ := h.ends
  simp [plain.newline_notMem]

theorem Opens.depth {l : String} (h : Opens l) : braceDepth l.toList = 1 := by
  obtain ⟨front, plain, rfl⟩ := h
  rw [toList_openBrace, braceDepth_append, plain.depth]
  rfl

theorem Closes.depth {l : String} (h : Closes l) : braceDepth l.toList = -1 := by
  obtain ⟨front, plain, rfl⟩ := h.ends
  rw [toList_closeBrace, braceDepth_append, plain.depth]
  rfl

theorem Opens.stays {l : String} (h : Opens l) : StaysAbove 0 l.toList := by
  obtain ⟨front, plain, rfl⟩ := h
  rw [toList_openBrace, staysAbove_append, plain.depth, staysAbove_cons, staysAbove_nil]
  exact ⟨plain.staysAbove, by decide, by decide⟩

theorem Closes.stays {l : String} (h : Closes l) : StaysAbove (-1) l.toList := by
  obtain ⟨front, plain, rfl⟩ := h.ends
  rw [toList_closeBrace, staysAbove_append, plain.depth, staysAbove_cons, staysAbove_nil]
  exact ⟨plain.staysAbove.mono (by decide), by decide, by decide⟩

/-- A line and what follows it. -/
theorem staysAbove_joinLines_cons {n : Int} {l : String} {lines : List String} :
    StaysAbove n (joinLines (l :: lines)).toList ↔
      StaysAbove n l.toList ∧ StaysAbove (n - braceDepth l.toList) (joinLines lines).toList := by
  rw [toList_joinLines_cons, staysAbove_append, staysAbove_cons]
  constructor
  · rintro ⟨first, -, rest⟩
    exact ⟨first, by simpa [braceWeight] using rest⟩
  · rintro ⟨first, rest⟩
    refine ⟨first, ?_, by simpa [braceWeight] using rest⟩
    have whole := first l.toList List.prefix_rfl
    omega

theorem braceDepth_joinLines_cons (l : String) (lines : List String) :
    braceDepth (joinLines (l :: lines)).toList =
      braceDepth l.toList + braceDepth (joinLines lines).toList := by
  have newline : braceWeight '\n' = 0 := rfl
  rw [toList_joinLines_cons, braceDepth_append, braceDepth_cons, newline, Int.zero_add]

/-- **Where lines nest, the depth comes back to where it was and never falls below.** -/
theorem Nested.balanced {lines : List String} {classes : List ClassTree}
    (h : Nested lines classes) : braceDepth (joinLines lines).toList = 0 ∧
      StaysAbove 0 (joinLines lines).toList := by
  induction h with
  | nil => exact ⟨rfl, staysAbove_nil.2 (Int.le_refl 0)⟩
  | line inline _ ih =>
    rw [braceDepth_joinLines_cons, staysAbove_joinLines_cons, inline.depth]
    exact ⟨by omega, inline.stays, ih.2⟩
  | block opens closes _ _ within rest =>
    rw [braceDepth_joinLines_cons, staysAbove_joinLines_cons, opens.depth, toList_joinLines_append,
      braceDepth_append, staysAbove_append, braceDepth_joinLines_cons, staysAbove_joinLines_cons,
      closes.depth, within.1, rest.1]
    refine ⟨by decide, opens.stays, within.2.mono (by decide), closes.stays.mono (by decide), ?_⟩
    exact rest.2.mono (by decide)

/-! ### Reading lines -/

namespace Scan

/-- The brace that closes the class that is being read is still to come. -/
def Inside (s : Scan) : Prop := ∀ frame ∈ s.outer.head?, frame.1 < s.depth

/-- **A text that does not close the class that is being read changes nothing but the depth.** -/
theorem foldl_readChar {cs : List Char} {s : Scan}
    (stays : ∀ frame ∈ s.outer.head?, StaysAbove (frame.1 + 1 - s.depth) cs) :
    cs.foldl readChar s = { s with depth := s.depth + braceDepth cs } := by
  induction cs generalizing s with
  | nil => simp
  | cons c rest ih =>
    have step : s.readChar c = { s with depth := s.depth + braceWeight c } := by
      rw [readChar, braceWeight]
      split
      · rfl
      · split
        · rename_i closing
          rw [close]
          split
          · rename_i base name before outer top
            have above := stays (base, name, before) (by rw [top]; rfl) [c] (by simp)
            have weight : braceDepth [c] = -1 := by rw [closing]; rfl
            rw [if_neg (by omega)]
            rfl
          · rfl
        · simp
    rw [List.foldl_cons, step, ih fun frame hframe => ?_]
    · simp [Int.add_assoc]
    · have later := (staysAbove_cons.1 (stays frame hframe)).2
      simpa only [Int.sub_sub] using later

/-- A text that never closes what was open before it does not close the class. -/
theorem Inside.foldl_readChar {s : Scan} (inside : s.Inside) {cs : List Char}
    (stays : StaysAbove 0 cs) : cs.foldl readChar s = { s with depth := s.depth + braceDepth cs } :=
  Scan.foldl_readChar fun frame hframe => stays.mono (by have := inside frame hframe; omega)

theorem Inside.readLine_inline {s : Scan} (inside : s.Inside) {l : String} (h : Inline l) :
    s.readLine l.toList = s := by
  rw [readLine, h.silent]
  simpa [h.depth] using inside.foldl_readChar h.stays

theorem Inside.readLine_opens {s : Scan} (inside : s.Inside) {l : String} (h : Opens l)
    (silent : declared? l.toList = none) :
    s.readLine l.toList = { s with depth := s.depth + 1 } := by
  rw [readLine, silent]
  simpa [h.depth] using inside.foldl_readChar h.stays

/-- A text without braces is read past. -/
theorem foldl_readChar_plain {front : String} (plain : IsPlain front) (s : Scan) :
    front.toList.foldl readChar s = s := by
  have same : ∀ c ∈ front.toList, s.readChar c = s := by
    intro c hc
    rw [readChar, if_neg (plain c hc).1, if_neg (plain c hc).2.1]
  generalize front.toList = cs at same
  induction cs with
  | nil => rfl
  | cons c rest ih =>
    rw [List.foldl_cons, same c List.mem_cons_self]
    exact ih fun d hd => same d (List.mem_cons_of_mem c hd)

/-- The line that declares a class begins it. -/
theorem readLine_declares (s : Scan) {l name : String} (h : Opens l)
    (declares : declared? l.toList = some name) :
    s.readLine l.toList = ⟨s.depth + 1, [], (s.depth, name, s.inner) :: s.outer⟩ := by
  obtain ⟨front, plain, rfl⟩ := h
  rw [readLine, declares, toList_openBrace, List.foldl_append]
  exact congrArg (fun t => readChar t '\x7b') (foldl_readChar_plain plain (s.enter name))

theorem readLine_closes (s : Scan) {l : String} (h : Closes l) : s.readLine l.toList = s.close := by
  obtain ⟨front, plain, rfl⟩ := h.ends
  rw [readLine, h.silent, toList_closeBrace, List.foldl_append]
  exact congrArg (fun t => readChar t '\x7d') (foldl_readChar_plain plain s)

/-- The end of a block that is no class. -/
theorem Inside.close_block {s : Scan} (inside : s.Inside) :
    close { s with depth := s.depth + 1 } = s := by
  obtain ⟨depth, inner, outer⟩ := s
  cases outer with
  | nil => simp [close]
  | cons frame outer =>
    have below : frame.1 < depth := inside frame rfl
    have other : depth + 1 ≠ frame.1 + 1 := by omega
    simp [close, other]

theorem close_class (s : Scan) (name : String) (inner : List ClassTree) :
    close ⟨s.depth + 1, inner, (s.depth, name, s.inner) :: s.outer⟩ =
      { s with inner := s.inner ++ [.node name inner] } := if_pos rfl

end Scan

/-- **Reading lines that nest adds their classes** to those read before. -/
theorem Nested.foldl_readLine {lines : List String} {classes : List ClassTree}
    (h : Nested lines classes) {s : Scan} (inside : s.Inside) :
    (lines.map String.toList).foldl Scan.readLine s =
      { s with inner := s.inner ++ classes } := by
  induction h generalizing s with
  | nil => simp
  | line inline _ ih =>
    rw [List.map_cons, List.foldl_cons, inside.readLine_inline inline, ih inside]
  | @block first last body lines inner classes opens closes _ _ within rest =>
    simp only [List.map_cons, List.map_append, List.foldl_cons, List.foldl_append]
    cases declares : declared? first.toList with
    | none =>
      have deeper : Scan.Inside { s with depth := s.depth + 1 } := fun frame hframe =>
        Int.lt_trans (inside frame hframe) (Int.lt_succ s.depth)
      have after : Scan.Inside { s with inner := s.inner ++ inner } := inside
      rw [inside.readLine_opens opens declares, within deeper, Scan.readLine_closes _ closes,
        after.close_block, rest after, shown, List.append_assoc]
    | some name =>
      have deeper : Scan.Inside ⟨s.depth + 1, [], (s.depth, name, s.inner) :: s.outer⟩ := by
        rintro frame ⟨⟩
        exact Int.lt_succ s.depth
      have after : Scan.Inside { s with inner := s.inner ++ [.node name inner] } := inside
      rw [s.readLine_declares opens declares, within deeper, Scan.readLine_closes _ closes,
        List.nil_append, s.close_class, rest after, shown, List.append_assoc]

theorem Nested.newline_notMem {lines : List String} {classes : List ClassTree}
    (h : Nested lines classes) : ∀ l ∈ lines, '\n' ∉ l.toList := by
  induction h with
  | nil => exact fun _ hl => absurd hl List.not_mem_nil
  | line inline _ ih => exact List.forall_mem_cons.2 ⟨inline.newline, ih⟩
  | block opens closes _ _ within rest =>
    refine List.forall_mem_cons.2 ⟨opens.newline_notMem, List.forall_mem_append.2 ⟨within, ?_⟩⟩
    exact List.forall_mem_cons.2 ⟨closes.newline_notMem, rest⟩

/-- **The classes of a text whose lines nest are read off its braces.** -/
theorem Nested.readClasses? {lines : List String} {classes : List ClassTree}
    (h : Nested lines classes) : Java.readClasses? (joinLines lines) = some classes := by
  have start : Scan.Inside {} := fun _ hframe => absurd hframe (Option.not_mem_none _)
  rw [Java.readClasses?, splitOn_joinLines h.newline_notMem, List.foldl_append,
    h.foldl_readLine start]
  rfl

end Java
end FixBindings
