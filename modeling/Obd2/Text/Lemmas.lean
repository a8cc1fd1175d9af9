import Obd2.Byte
import Obd2.Text

/-! Facts about text: what trimming and splitting keep, and how bytes look in hexadecimal. -/
namespace Obd2.Text

/-! ### Occurrences -/

theorem contains_iff_infix (t pattern : Text) : contains t pattern = true ↔ pattern <:+: t := by
  induction t with
  | nil => simp [contains, List.infix_nil]
  | cons c rest ih => simp [contains, List.infix_cons_iff, ih]

theorem prefix_trimEndWhile (p : Char → Bool) (t : Text) : trimEndWhile p t <+: t := by
  have h : t.reverse.dropWhile p <:+ t.reverse := List.dropWhile_suffix p
  have h' := List.reverse_prefix.mpr h
  rwa [List.reverse_reverse] at h'

theorem trimEndWhile_concat (p : Char → Bool) (front : Text) (c : Char) :
    trimEndWhile p (front ++ [c]) = if p c then trimEndWhile p front else front ++ [c] := by
  cases hc : p c with
  | true => simp [trimEndWhile, hc]
  | false => simp [trimEndWhile, hc]

theorem trim_infix (t : Text) : trim t <:+: t :=
  List.infix_iff_prefix_suffix.mpr
    ⟨t.dropWhile isWhitespace, prefix_trimEndWhile .., List.dropWhile_suffix _⟩

/-- What trimming takes off the end satisfies the predicate. -/
theorem mem_trimEndWhile {p : Char → Bool} {t : Text} {c : Char} (h : c ∈ t) (hc : p c = false) :
    c ∈ trimEndWhile p t := by
  have hmem : c ∈ t.reverse.takeWhile p ++ t.reverse.dropWhile p := by
    rw [List.takeWhile_append_dropWhile]
    exact List.mem_reverse.mpr h
  rcases List.mem_append.mp hmem with htake | hdrop
  · have := List.all_eq_true.mp List.all_takeWhile c htake
    rw [hc] at this
    cases this
  · exact List.mem_reverse.mpr hdrop

theorem mem_trim {t : Text} {c : Char} (h : c ∈ t) (hc : isWhitespace c = false) : c ∈ trim t := by
  refine mem_trimEndWhile ?_ hc
  have hmem : c ∈ t.takeWhile isWhitespace ++ t.dropWhile isWhitespace := by
    rwa [List.takeWhile_append_dropWhile]
  rcases List.mem_append.mp hmem with htake | hdrop
  · have := List.all_eq_true.mp List.all_takeWhile c htake
    rw [hc] at this
    cases this
  · exact hdrop

/-- A trimmed text does not begin with whitespace, however much of its end is taken off. -/
theorem head_trim {t u : Text} (h : u <+: trim t) {c : Char} {rest : Text} (hu : u = c :: rest) :
    isWhitespace c = false := by
  have hpre : c :: rest <+: t.dropWhile isWhitespace := by
    rw [← hu]
    exact h.trans (prefix_trimEndWhile ..)
  obtain ⟨tail, htail⟩ := hpre
  have hhead := List.head?_dropWhile_not isWhitespace t
  rw [← htail] at hhead
  exact hhead

/-! ### Pieces -/

/-- The first piece of a text, as far as it has no separator. -/
theorem prefix_piece {p : Char → Bool} {pattern t : Text} (hpattern : ∀ c ∈ pattern, p c = false)
    (h : pattern <+: t) : ∃ piece rest, t.splitOnP p = piece :: rest ∧ pattern <+: piece := by
  obtain ⟨tail, rfl⟩ := h
  induction pattern with
  | nil =>
    cases hs : tail.splitOnP p with
    | nil => exact absurd hs (List.splitOnP_ne_nil p tail)
    | cons piece rest => exact ⟨piece, rest, hs, List.nil_prefix⟩
  | cons c pattern ih =>
    obtain ⟨piece, rest, hs, hpre⟩ := ih fun d hd => hpattern d (List.mem_cons_of_mem c hd)
    refine ⟨c :: piece, rest, ?_, List.cons_prefix_cons.mpr ⟨rfl, hpre⟩⟩
    rw [List.cons_append, List.splitOnP_cons_eq_if_modifyHead, hpattern c List.mem_cons_self, hs]
    rfl

/-- What occurs in a text and has no separator in it occurs in one of the pieces. -/
theorem infix_piece {p : Char → Bool} {pattern t : Text} (hpattern : ∀ c ∈ pattern, p c = false)
    (hne : pattern ≠ []) (h : pattern <:+: t) : ∃ piece ∈ t.splitOnP p, pattern <:+: piece := by
  induction t with
  | nil => exact absurd (List.infix_nil.mp h) hne
  | cons c t ih =>
    rcases List.infix_cons_iff.mp h with hpre | hinf
    · obtain ⟨piece, rest, hs, hpre⟩ := prefix_piece hpattern hpre
      exact ⟨piece, hs ▸ List.mem_cons_self, hpre.isInfix⟩
    · obtain ⟨piece, hpiece, hinf⟩ := ih hinf
      rw [List.splitOnP_cons_eq_if_modifyHead]
      split
      · exact ⟨piece, List.mem_cons_of_mem _ hpiece, hinf⟩
      · cases hs : t.splitOnP p with
        | nil => exact absurd hs (List.splitOnP_ne_nil p t)
        | cons first rest =>
          rw [hs] at hpiece
          rcases List.mem_cons.mp hpiece with rfl | hrest
          · exact ⟨c :: piece, List.mem_cons_self, List.infix_cons hinf⟩
          · exact ⟨piece, List.mem_cons_of_mem _ hrest, hinf⟩

/-- The first token of a text that does not begin with whitespace begins as the text does. -/
theorem splitWhitespace_cons {c : Char} (hc : isWhitespace c = false) (t : Text) :
    ∃ word words, splitWhitespace (c :: t) = (c :: word) :: words := by
  unfold splitWhitespace
  rw [List.splitOnP_cons_eq_if_modifyHead, hc]
  cases hs : t.splitOnP isWhitespace with
  | nil => exact absurd hs (List.splitOnP_ne_nil isWhitespace t)
  | cons first rest => exact ⟨first, rest.filter fun w => !w.isEmpty, rfl⟩

/-- Every character that is not whitespace is in a token. -/
theorem mem_splitWhitespace {c : Char} {t : Text} (h : c ∈ t) (hc : isWhitespace c = false) :
    ∃ word ∈ splitWhitespace t, c ∈ word := by
  have hinfix : [c] <:+: t := by
    obtain ⟨before, after, rfl⟩ := List.append_of_mem h
    exact ⟨before, after, by simp⟩
  obtain ⟨piece, hpiece, hin⟩ := infix_piece (p := isWhitespace) (by simpa using hc)
    (List.cons_ne_nil c []) hinfix
  have hmem : c ∈ piece := hin.subset List.mem_cons_self
  refine ⟨piece, List.mem_filter.mpr ⟨hpiece, ?_⟩, hmem⟩
  cases piece with
  | nil => cases hmem
  | cons d ds => rfl

/-! ### Characters that stand for nothing

Where every character stands for a list of things, what is taken off a text or separates its pieces
does not count if it stands for none. -/

section Standing
variable {β : Type} {g : Char → List β} {p : Char → Bool} {t : Text}

theorem flatMap_dropWhile (h : ∀ c ∈ t, p c = true → g c = []) : (t.dropWhile p).flatMap g = t.flatMap g := by
  have hdropped : (t.takeWhile p).flatMap g = [] := by
    apply List.flatMap_eq_nil_iff.mpr
    intro c hc
    exact h c (List.takeWhile_subset p hc) (List.all_eq_true.mp List.all_takeWhile c hc)
  calc (t.dropWhile p).flatMap g = (t.takeWhile p).flatMap g ++ (t.dropWhile p).flatMap g := by
        rw [hdropped, List.nil_append]
    _ = t.flatMap g := by rw [← List.flatMap_append, List.takeWhile_append_dropWhile]

theorem flatMap_trimEndWhile (h : ∀ c ∈ t, p c = true → g c = []) :
    (trimEndWhile p t).flatMap g = t.flatMap g := by
  have hdropped : (t.reverse.takeWhile p).reverse.flatMap g = [] := by
    apply List.flatMap_eq_nil_iff.mpr
    intro c hc
    have hc := List.mem_reverse.mp hc
    exact h c (List.mem_reverse.mp (List.takeWhile_subset p hc)) (List.all_eq_true.mp List.all_takeWhile c hc)
  calc (trimEndWhile p t).flatMap g
      = (t.reverse.dropWhile p).reverse.flatMap g ++ (t.reverse.takeWhile p).reverse.flatMap g := by
        rw [hdropped, List.append_nil]
        rfl
    _ = t.flatMap g := by
        rw [← List.flatMap_append, ← List.reverse_append, List.takeWhile_append_dropWhile, List.reverse_reverse]

theorem flatMap_trim (h : ∀ c ∈ t, isWhitespace c = true → g c = []) : (trim t).flatMap g = t.flatMap g := by
  have hdropped : ∀ c ∈ t.dropWhile isWhitespace, isWhitespace c = true → g c = [] :=
    fun c hc => h c ((List.dropWhile_suffix isWhitespace).subset hc)
  rw [trim, flatMap_trimEndWhile hdropped, flatMap_dropWhile h]

theorem flatMap_splitOnP (h : ∀ c, p c = true → g c = []) (t : Text) :
    (t.splitOnP p).flatMap (·.flatMap g) = t.flatMap g := by
  induction t with
  | nil => simp
  | cons c t ih =>
    rw [List.splitOnP_cons_eq_if_modifyHead]
    split
    · next hc => simp [ih, h c hc]
    · cases hs : t.splitOnP p with
      | nil => exact absurd hs (List.splitOnP_ne_nil p t)
      | cons first rest =>
        rw [hs] at ih
        simp [← ih]

theorem flatMap_splitWhitespace (h : ∀ c, isWhitespace c = true → g c = []) (t : Text) :
    (splitWhitespace t).flatMap (·.flatMap g) = t.flatMap g := by
  rw [← flatMap_splitOnP h t, splitWhitespace]
  induction t.splitOnP isWhitespace with
  | nil => rfl
  | cons piece rest ih =>
    cases piece with
    | nil => simp [ih]
    | cons c piece => simp [ih]

end Standing

/-! ### Words -/

/-- No whitespace in it, and not empty. -/
def IsWord (w : Text) : Prop := w ≠ [] ∧ ∀ c ∈ w, isWhitespace c = false

/-- The words with one blank between them. -/
def spaced : List Text → Text
  | [] => []
  | [w] => w
  | w :: rest => w ++ ' ' :: spaced rest

theorem splitWhitespace_spaced {words : List Text} (h : ∀ w ∈ words, IsWord w) :
    splitWhitespace (spaced words) = words := by
  have hkept : ∀ w, IsWord w → (!w.isEmpty) = true := fun w hw => by
    rw [List.isEmpty_eq_false_iff.mpr hw.1]
    rfl
  unfold splitWhitespace
  induction words with
  | nil => rfl
  | cons w rest ih =>
    have hw := h w List.mem_cons_self
    have hrest := ih fun v hv => h v (List.mem_cons_of_mem w hv)
    cases rest with
    | nil =>
      rw [spaced, List.splitOnP_eq_singleton hw.2, List.filter_cons, if_pos (hkept w hw), List.filter_nil]
    | cons v rest =>
      rw [spaced, List.splitOnP_append_cons_of_forall_mem hw.2 ' ' rfl, List.filter_cons, if_pos (hkept w hw),
        hrest]
      exact List.cons_ne_nil v rest

/-! ### Tokens -/

theorem splitWhitespace_blank_append {before : Text} (h : ∀ c ∈ before, isWhitespace c = true) (t : Text) :
    splitWhitespace (before ++ t) = splitWhitespace t := by
  induction before with
  | nil => rfl
  | cons c before ih =>
    rw [← ih fun d hd => h d (List.mem_cons_of_mem c hd)]
    unfold splitWhitespace
    rw [List.cons_append, List.splitOnP_cons_eq_if_modifyHead, if_pos (h c List.mem_cons_self)]
    rfl

theorem splitWhitespace_blank {t : Text} (h : ∀ c ∈ t, isWhitespace c = true) : splitWhitespace t = [] := by
  have hnone := splitWhitespace_blank_append h []
  rwa [List.append_nil] at hnone

/-- A word that ends where whitespace begins, or with the text, is its first token. -/
theorem splitWhitespace_word_append {word rest : Text} (hword : IsWord word)
    (hend : ∀ c ∈ rest.head?, isWhitespace c = true) :
    splitWhitespace (word ++ rest) = word :: splitWhitespace rest := by
  have hkept : (!word.isEmpty) = true := by
    rw [List.isEmpty_eq_false_iff.mpr hword.1]
    rfl
  cases rest with
  | nil =>
    rw [List.append_nil, splitWhitespace, List.splitOnP_eq_singleton hword.2, List.filter_cons, if_pos hkept]
    rfl
  | cons c rest =>
    have hc : isWhitespace c = true := hend c rfl
    have hblank : splitWhitespace (c :: rest) = splitWhitespace rest :=
      splitWhitespace_blank_append (List.forall_mem_singleton.mpr hc) rest
    rw [hblank]
    unfold splitWhitespace
    rw [List.splitOnP_append_cons_of_forall_mem hword.2 c hc, List.filter_cons, if_pos hkept]

/-- A text is blank, or it begins with a token after blanks. -/
theorem blank_or_word (t : Text) : (∀ c ∈ t, isWhitespace c = true) ∨
    ∃ before word rest, t = before ++ (word ++ rest) ∧ (∀ c ∈ before, isWhitespace c = true) ∧
      IsWord word ∧ ∀ c ∈ rest.head?, isWhitespace c = true := by
  have hsplit := List.takeWhile_append_dropWhile (p := isWhitespace) (l := t)
  have hbefore : ∀ c ∈ t.takeWhile isWhitespace, isWhitespace c = true := List.all_eq_true.mp List.all_takeWhile
  cases hdrop : t.dropWhile isWhitespace with
  | nil =>
    rw [hdrop, List.append_nil] at hsplit
    left
    rwa [hsplit] at hbefore
  | cons c after =>
    right
    have hc : isWhitespace c = false := by
      have hhead := List.head?_dropWhile_not isWhitespace t
      rw [hdrop] at hhead
      exact hhead
    refine ⟨t.takeWhile isWhitespace, (c :: after).takeWhile fun d => !isWhitespace d,
      (c :: after).dropWhile fun d => !isWhitespace d, ?_, hbefore, ⟨?_, ?_⟩, ?_⟩
    · rw [List.takeWhile_append_dropWhile, ← hdrop, hsplit]
    · rw [List.takeWhile_cons_of_pos (by rw [hc]; rfl)]
      exact List.cons_ne_nil _ _
    · intro d hd
      have := List.all_eq_true.mp List.all_takeWhile d hd
      exact Bool.not_eq_true' _ |>.mp this
    · intro d hd
      have hhead := List.head?_dropWhile_not (fun d => !isWhitespace d) (c :: after)
      rw [Option.mem_def.mp hd] at hhead
      simpa using hhead

/-! ### Numbers -/

/-- A number is read off its digits. -/
theorem toDigits_injective {m n : Nat} (h : Nat.toDigits 10 m = Nat.toDigits 10 n) : m = n := by
  rw [← Nat.ofDigitChars_ten_toDigits (n := m), h, Nat.ofDigitChars_ten_toDigits]

/-- A number ends where a word begins. -/
theorem toDigits_append_inj {m n : Nat} {word : Text} (hword : ∃ c t, word = c :: t ∧ c.isDigit = false)
    {rest rest' : Text} (h : Nat.toDigits 10 m ++ (word ++ rest) = Nat.toDigits 10 n ++ (word ++ rest')) :
    m = n ∧ rest = rest' := by
  obtain ⟨c, t, rfl, hc⟩ := hword
  have hdigits (k : Nat) (rest : Text) :
      (Nat.toDigits 10 k ++ (c :: t ++ rest)).takeWhile Char.isDigit = Nat.toDigits 10 k := by
    rw [List.takeWhile_append_of_pos fun d hd => Nat.isDigit_of_mem_toDigits (by decide) (by decide) hd,
      List.cons_append, List.takeWhile_cons_of_neg (by rw [hc]; exact Bool.false_ne_true), List.append_nil]
  obtain rfl : m = n := toDigits_injective ((hdigits m rest).symm.trans (h ▸ hdigits n rest'))
  exact ⟨rfl, List.append_cancel_left (List.append_cancel_left h)⟩

/-! ### Characters as bytes -/

theorem bytes_cons (c : Char) (t : Text) : bytes (c :: t) = String.utf8EncodeChar c ++ bytes t := rfl

/-- The character of an ASCII byte is encoded by that byte. -/
theorem utf8_ascii {b : UInt8} (h : b < 0x80) : String.utf8EncodeChar (Char.ofNat b.toNat) = [b] := by
  have hall : ∀ b : UInt8, b < 0x80 → String.utf8EncodeChar (Char.ofNat b.toNat) = [b] :=
    forall_byte (by decide +kernel)
  exact hall b h

/-! ### Hexadecimal bytes -/

theorem isWord_hexByte (b : UInt8) : IsWord (hexByte b) := by
  have hdigits : ∀ b : UInt8, isWhitespace (hexDigit (b >>> 4)) = false ∧
      isWhitespace (hexDigit (b &&& 0x0F)) = false := forall_byte (by decide +kernel)
  refine ⟨List.cons_ne_nil _ _, ?_⟩
  intro c hc
  rcases List.mem_cons.mp hc with rfl | hc
  · exact (hdigits b).1
  · obtain rfl := List.mem_singleton.mp hc
    exact (hdigits b).2

theorem isWord_hexBytes (data : List UInt8) : ∀ w ∈ data.map hexByte, IsWord w := by
  intro w hw
  obtain ⟨b, -, rfl⟩ := List.mem_map.mp hw
  exact isWord_hexByte b

/-- The ASCII code of `hexDigit`. -/
def hexDigitByte (n : UInt8) : UInt8 := if n < 10 then 48 + n else 55 + n

theorem bytes_hexByte (b : UInt8) :
    bytes (hexByte b) = [hexDigitByte (b >>> 4), hexDigitByte (b &&& 0x0F)] := by
  revert b
  exact forall_byte (by decide +kernel)

theorem nibbles (b : UInt8) : ((b >>> 4) <<< 4) ||| (b &&& 0x0F) = b := by
  revert b
  exact forall_byte (by decide +kernel)

end Obd2.Text
