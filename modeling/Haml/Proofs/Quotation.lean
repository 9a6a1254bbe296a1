import Haml.Literal.Read
import Haml.Proofs.LogicalLine

/-!
# Quoted text read back

A text is quoted with an escape for each character that cannot stand for itself. `escape_cases` says
what the written form of one code point is, and everything else follows from it by induction over
the text: a quoted text is one line of printable characters, and it is read as a literal whose value
is the text.
-/

namespace Haml

namespace Text

/-- A hexadecimal digit has its value. -/
theorem hexValue?_digitChar {d : Nat} (h : d < 16) : hexValue? d.digitChar = some d :=
  (by decide : ∀ d < 16, hexValue? d.digitChar = some d) d h

/-- The digits of a number are hexadecimal digits. -/
theorem exists_of_mem_toDigits {c : Char} {n : Nat} (h : c ∈ Nat.toDigits 16 n) :
    ∃ d < 16, c = d.digitChar := by
  induction n using Nat.strong_induction_on with
  | _ n ih =>
    rw [Nat.toDigits_eq_if (by decide)] at h
    split at h
    · rename_i hlt
      exact ⟨n, hlt, List.mem_singleton.mp h⟩
    · rcases List.mem_append.mp h with h | h
      · exact ih (n / 16) (by omega) h
      · exact ⟨n % 16, Nat.mod_lt _ (by decide), List.mem_singleton.mp h⟩

/-- The digits of a number in hexadecimal notation are hexadecimal. -/
theorem exists_of_mem_hex {c : Char} {width n : Nat} (h : c ∈ hex width n) :
    ∃ d < 16, c = d.digitChar := by
  rcases List.mem_append.mp h with h | h
  · exact ⟨0, by decide, List.eq_of_mem_replicate h⟩
  · exact exists_of_mem_toDigits h

/-- One more hexadecimal digit of a number. -/
def addDigit (n : Option Nat) (c : Char) : Option Nat := do return 16 * (← n) + (← hexValue? c)

/-- The digits of a number are read as the number. -/
theorem foldl_addDigit_toDigits (n : Nat) :
    (Nat.toDigits 16 n).foldl addDigit (some 0) = some n := by
  induction n using Nat.strong_induction_on with
  | _ n ih =>
    rw [Nat.toDigits_eq_if (by decide)]
    split
    · rename_i hlt
      rw [List.foldl_cons, List.foldl_nil, addDigit, hexValue?_digitChar hlt]
      exact congrArg some (Nat.zero_add n)
    · rw [List.foldl_append, ih (n / 16) (by omega), List.foldl_cons, List.foldl_nil, addDigit,
        hexValue?_digitChar (Nat.mod_lt _ (by decide))]
      exact congrArg some (Nat.div_add_mod n 16)

/-- Zeros are read as zero. -/
theorem foldl_addDigit_zeros (count : Nat) :
    (List.replicate count '0').foldl addDigit (some 0) = some 0 := by
  induction count with
  | zero => rfl
  | succ count ih =>
    rw [List.replicate_succ, List.foldl_cons]
    exact ih

/-- A number that is not too long is written with the width given. -/
theorem length_hex {width n : Nat} (h : (Nat.toDigits 16 n).length ≤ width) :
    (hex width n).length = width := by
  rw [hex, List.length_append, List.length_replicate]
  omega

/-- A number that has been written in hexadecimal is read back. -/
theorem hexNumber?_hex {width n : Nat} (h : (Nat.toDigits 16 n).length ≤ width) (rest : Text) :
    hexNumber? width (hex width n ++ rest) = some n := by
  have htake : (hex width n ++ rest).take width = hex width n := by
    rw [List.take_append_of_le_length (length_hex h).ge, List.take_of_length_le (length_hex h).le]
  rw [hexNumber?, htake, if_neg (by rw [length_hex h]; omega), hex]
  change List.foldl addDigit (some 0) _ = _
  rw [List.foldl_append, foldl_addDigit_zeros, foldl_addDigit_toDigits]

/-- A printable character ends no line. -/
theorem not_isLineBreak_of_isPrintable {c : Char} (h : isPrintable c = true) :
    isLineBreak c = false := by
  have hbreaks : ∀ n ∈ [0x0A, 0x0B, 0x0C, 0x0D, 0x1C, 0x1D, 0x1E, 0x85, 0x2028, 0x2029],
      (if n < 128 then (decide (0x20 ≤ n) && decide (n < 0x7F)) else
        printableRanges.contains n) = false := by decide +kernel
  by_contra hb
  have hmem : c.toNat ∈ [0x0A, 0x0B, 0x0C, 0x0D, 0x1C, 0x1D, 0x1E, 0x85, 0x2028, 0x2029] := by
    simp only [Bool.not_eq_false, isLineBreak, Bool.or_eq_true, Bool.and_eq_true,
      decide_eq_true_eq, beq_iff_eq] at hb
    simp only [List.mem_cons, List.not_mem_nil, or_false]
    omega
  rw [isPrintable, hbreaks c.toNat hmem] at h
  cases h

/-- A hexadecimal digit is printable and neither a quote nor a backslash. -/
theorem digitChar_cases {d : Nat} (h : d < 16) :
    isPrintable d.digitChar = true ∧ d.digitChar ≠ '\\' ∧ d.digitChar ≠ '\'' ∧
      d.digitChar ≠ '"' :=
  (by decide : ∀ d < 16, isPrintable d.digitChar = true ∧ d.digitChar ≠ '\\' ∧
    d.digitChar ≠ '\'' ∧ d.digitChar ≠ '"') d h

/-- A text that does not start with a blank is not trimmed on the left. -/
theorem trimLeft_eq_self {t : Text} (h : ∀ c ∈ t.head?, isBlank c = false) : trimLeft t = t := by
  cases t with
  | nil => rfl
  | cons c t => exact List.dropWhile_cons_of_neg (by rw [h c rfl]; exact Bool.false_ne_true)

/-- A text with a visible character at either end has nothing to trim. -/
theorem trim_eq_self {t : Text} (hhead : ∀ c ∈ t.head?, isBlank c = false)
    (hlast : ∀ c ∈ t.getLast?, isBlank c = false) : trim t = t := by
  rw [trim, trimLeft_eq_self hhead, trimRight, ← trimLeft, trimLeft_eq_self, List.reverse_reverse]
  rwa [List.head?_reverse]

/-- A text without carriage returns keeps its line ends. -/
theorem unifyLineEnds_eq_self {t : Text} (h : '\r' ∉ t) : unifyLineEnds t = t := by
  induction t with
  | nil => rfl
  | cons c t ih =>
    rw [List.mem_cons, not_or] at h
    obtain ⟨hc, ht⟩ := h
    rw [unifyLineEnds, ih ht, if_neg (by simpa using Ne.symm hc)]
    intro rest heq
    exact absurd heq.symm hc

/-- An escape: the characters after its backslash can be read back as the number of one code point,
and none of them ends the quotes. -/
structure IsEscape (mark : Char) (n : Nat) (first : Char) (digits : Text) : Prop where
  /-- It is read as the code point, whatever follows. -/
  reads : ∀ rest, escape? true first (digits ++ rest) = some ⟨[n], digits.length⟩
  /-- The character after the backslash is printable. -/
  first_printable : isPrintable first = true
  /-- So are the digits. -/
  printable : ∀ c ∈ digits, isPrintable c = true
  /-- No digit is the quote or a backslash. -/
  apart : ∀ c ∈ digits, c ≠ mark ∧ c ≠ '\\'

/-- A letter that announces some hexadecimal digits, with these digits, is an escape. -/
theorem isEscape_hex {mark : Char} (hmark : Literal.isQuoteMark mark = true) {width n : Nat}
    {letter : Char} (hlength : (Nat.toDigits 16 n).length ≤ width)
    (hletter : isPrintable letter = true)
    (h : ∀ rest, escape? true letter rest = (hexNumber? width rest).map fun n => ⟨[n], width⟩) :
    IsEscape mark n letter (hex width n) where
  reads rest := by rw [h, hexNumber?_hex hlength, length_hex hlength]; rfl
  first_printable := hletter
  printable c hc := by
    obtain ⟨d, hd, rfl⟩ := exists_of_mem_hex hc
    exact (digitChar_cases hd).1
  apart c hc := by
    obtain ⟨d, hd, rfl⟩ := exists_of_mem_hex hc
    obtain ⟨-, hslash, hsingle, hdouble⟩ := digitChar_cases hd
    refine ⟨?_, hslash⟩
    rintro rfl
    simp_all [Literal.isQuoteMark]

/-- A code point given by its number is an escape. -/
theorem exists_isEscape_escapeCode {mark : Char} (hmark : Literal.isQuoteMark mark = true)
    {n : Nat} (hn : n < 0x110000) :
    ∃ first digits, escapeCode n = '\\' :: first :: digits ∧ IsEscape mark n first digits := by
  have hlength {width : Nat} (hw : 0 < width) :=
    (Nat.length_toDigits_le_iff (n := n) (by decide : 1 < 16) hw).mpr
  unfold escapeCode
  split_ifs with hbyte hplane
  · exact ⟨_, _, rfl, isEscape_hex hmark (hlength (by decide) (by omega)) (by decide) fun _ => rfl⟩
  · exact ⟨_, _, rfl, isEscape_hex hmark (hlength (by decide) (by omega)) (by decide) fun _ => rfl⟩
  · exact ⟨_, _, rfl, isEscape_hex hmark (hlength (by decide) (by omega)) (by decide) fun _ => rfl⟩

end Text

namespace CodePoint

/-- Code points are below the limit that an escape can have. -/
theorem toNat_lt (p : CodePoint) : p.toNat < 0x110000 := by
  cases p with
  | char c =>
    have hvalid : c.toNat.isValidChar := c.valid
    simp only [toNat, Nat.isValidChar] at hvalid ⊢
    omega
  | surrogate offset =>
    have := offset.isLt
    simp only [toNat]
    omega

/-- The number of a code point gives the code point back. -/
theorem ofNat?_toNat (p : CodePoint) : ofNat? p.toNat = some p := by
  cases p with
  | char c =>
    have hvalid : c.toNat.isValidChar := c.valid
    rw [toNat, ofNat?, if_pos hvalid, Char.ofNat_toNat]
  | surrogate offset =>
    have hlt := offset.isLt
    have hinvalid : ¬(0xD800 + offset.val).isValidChar := by
      simp only [Nat.isValidChar]
      omega
    rw [toNat, ofNat?, if_neg hinvalid, dif_pos (by omega)]
    simp

/-- What stands for a code point inside quotes: a character for itself, or an escape. -/
theorem escape_cases {mark : Char} (hmark : Literal.isQuoteMark mark = true) (p : CodePoint) :
    (∃ c, p = .char c ∧ p.escape mark = [c] ∧ c ≠ mark ∧ c ≠ '\\' ∧
      Text.isPrintable c = true) ∨
    ∃ first digits, p.escape mark = '\\' :: first :: digits ∧
      Text.IsEscape mark p.toNat first digits := by
  cases p with
  | surrogate offset =>
    exact .inr (Text.exists_isEscape_escapeCode hmark (toNat_lt (.surrogate offset)))
  | char c =>
    have hsimple {first : Char} (h : ∀ rest, Text.escape? true first rest = some ⟨[c.toNat], 0⟩)
        (hp : Text.isPrintable first = true) : Text.IsEscape mark c.toNat first [] :=
      ⟨h, hp, List.forall_mem_nil _, List.forall_mem_nil _⟩
    simp only [escape, Text.escapeChar, toNat]
    split_ifs with hself hfeed hreturn htab hprintable
    · refine .inr ⟨c, [], rfl, ?_⟩
      have hc : c = '"' ∨ c = '\'' ∨ c = '\\' := by
        simp only [Bool.or_eq_true, beq_iff_eq, Literal.isQuoteMark] at hself hmark
        rcases hself with rfl | hslash
        · exact hmark.imp id .inl
        · exact .inr (.inr hslash)
      rcases hc with rfl | rfl | rfl <;> exact hsimple (fun _ => rfl) (by decide)
    · obtain rfl := beq_iff_eq.mp hfeed
      exact .inr ⟨_, _, rfl, hsimple (fun _ => rfl) (by decide)⟩
    · obtain rfl := beq_iff_eq.mp hreturn
      exact .inr ⟨_, _, rfl, hsimple (fun _ => rfl) (by decide)⟩
    · obtain rfl := beq_iff_eq.mp htab
      exact .inr ⟨_, _, rfl, hsimple (fun _ => rfl) (by decide)⟩
    · simp only [Bool.or_eq_true, beq_iff_eq, not_or] at hself
      exact .inl ⟨c, rfl, rfl, hself.1, hself.2, hprintable⟩
    · exact .inr (Text.exists_isEscape_escapeCode hmark (toNat_lt (.char c)))

end CodePoint

namespace CodeText

variable {mark : Char}

/-- The written form of a text inside quotes. -/
def written (mark : Char) (t : CodeText) : Text := t.flatMap (CodePoint.escape mark)

/-- A quoted text is what is written for it between two marks. -/
theorem quote_eq (t : CodeText) :
    t.quote = t.quoteMark :: (t.written t.quoteMark ++ [t.quoteMark]) := rfl

/-- The mark that a text is quoted with is a quote. -/
theorem isQuoteMark_quoteMark (t : CodeText) : Literal.isQuoteMark t.quoteMark = true := by
  unfold quoteMark
  split
  · rfl
  · rfl

/-- What is written for a text is printable. -/
theorem isPrintable_of_mem_written (hmark : Literal.isQuoteMark mark = true) {t : CodeText}
    {c : Char} (h : c ∈ t.written mark) : Text.isPrintable c = true := by
  obtain ⟨p, -, hc⟩ := List.mem_flatMap.mp h
  obtain ⟨d, -, heq, -, -, hd⟩ | ⟨first, digits, heq, hescape⟩ := p.escape_cases hmark
  · rw [heq] at hc
    rwa [List.mem_singleton.mp hc]
  · rw [heq] at hc
    rcases List.mem_cons.mp hc with rfl | hc
    · decide
    · rcases List.mem_cons.mp hc with rfl | hc
      · exact hescape.first_printable
      · exact hescape.printable c hc

/-- A quoted text has printable characters only. -/
theorem isPrintable_of_mem_quote {t : CodeText} {c : Char} (h : c ∈ t.quote) :
    Text.isPrintable c = true := by
  have hmark : Text.isPrintable t.quoteMark = true := by
    unfold quoteMark
    split <;> decide
  rw [quote_eq, List.mem_cons, List.mem_append, List.mem_singleton] at h
  obtain rfl | h | rfl := h
  · exact hmark
  · exact isPrintable_of_mem_written t.isQuoteMark_quoteMark h
  · exact hmark

/-- A quoted text has no blanks around it. -/
theorem trim_quote (t : CodeText) : Text.trim t.quote = t.quote := by
  have hmark : Text.isBlank t.quoteMark = false := by
    unfold quoteMark
    split <;> decide
  refine Text.trim_eq_self ?_ ?_
  · rintro c ⟨⟩
    exact hmark
  · intro c hc
    rw [quote_eq, ← List.cons_append, List.getLast?_concat] at hc
    rwa [← Option.some.inj hc]

/-- The escapes of a text stand for its code points. -/
theorem unescape?_written (hmark : Literal.isQuoteMark mark = true) (t : CodeText) :
    Text.unescape? true (t.written mark) = some (t.map CodePoint.toNat) := by
  induction t with
  | nil =>
    rw [written, List.flatMap_nil, Text.unescape?]
    rfl
  | cons p t ih =>
    rw [written, List.flatMap_cons, ← written]
    obtain ⟨c, rfl, heq, -, hslash, -⟩ | ⟨first, digits, heq, hescape⟩ := p.escape_cases hmark
    · rw [heq, List.singleton_append, Text.unescape?, ih]
      · rfl
      · intro d rest hd
        exact absurd hd hslash
    · rw [heq, List.cons_append, List.cons_append, Text.unescape?, hescape.reads]
      simp only [List.drop_left, ih]
      rfl

/-- A text is read back from the numbers of its code points. -/
theorem ofNats?_map_toNat (t : CodeText) : ofNats? (t.map CodePoint.toNat) = some t := by
  rw [ofNats?]
  induction t with
  | nil => rfl
  | cons p t ih =>
    rw [List.map_cons, List.mapM_cons, CodePoint.ofNat?_toNat, ih]
    rfl

end CodeText

namespace Literal

variable {mark : Char}

/-- A printable character that ends no quotes and starts no escape is passed over. -/
theorem quotedBody_cons {c : Char} (hc : c ≠ mark ∧ c ≠ '\\') (hp : Text.isPrintable c = true)
    (rest : Text) : quotedBody mark (c :: rest) = (quotedBody mark rest).map (·.prepend [c]) := by
  have hfeed : c ≠ '\n' := by
    rintro rfl
    exact absurd hp (by decide)
  rw [quotedBody]
  · simp [hc, hfeed]
  · intro d more hd
    exact absurd hd hc.2

/-- Printable characters that are neither the mark nor a backslash stand for themselves. -/
theorem quotedBody_append {plain : Text} (hp : ∀ c ∈ plain, Text.isPrintable c = true)
    (h : ∀ c ∈ plain, c ≠ mark ∧ c ≠ '\\') (rest : Text) :
    quotedBody mark (plain ++ rest) = (quotedBody mark rest).map (·.prepend plain) := by
  induction plain with
  | nil =>
    rw [List.nil_append]
    cases quotedBody mark rest <;> rfl
  | cons c plain ih =>
    obtain ⟨hc, hplain⟩ := List.forall_mem_cons.mp h
    obtain ⟨hcp, hprintable⟩ := List.forall_mem_cons.mp hp
    rw [List.cons_append, quotedBody_cons hc hcp, ih hprintable hplain]
    cases quotedBody mark rest <;> rfl

/-- The inside of a quoted text ends at its closing quote. -/
theorem quotedBody_written (hmark : isQuoteMark mark = true) (t : CodeText) (rest : Text) :
    quotedBody mark (t.written mark ++ mark :: rest) = some ⟨t.written mark, rest⟩ := by
  induction t with
  | nil =>
    have hslash : mark ≠ '\\' := by
      rintro rfl
      exact absurd hmark (by decide)
    rw [CodeText.written, List.flatMap_nil, List.nil_append, quotedBody]
    · simp
    · intro d more hd
      exact absurd hd hslash
  | cons p t ih =>
    rw [CodeText.written, List.flatMap_cons, ← CodeText.written, List.append_assoc]
    obtain ⟨c, rfl, heq, hc, hslash, hp⟩ | ⟨first, digits, heq, hescape⟩ := p.escape_cases hmark
    · rw [heq, List.singleton_append, quotedBody_cons ⟨hc, hslash⟩ hp, ih]
      rfl
    · rw [heq, List.cons_append, List.cons_append, quotedBody,
        quotedBody_append hescape.printable hescape.apart, ih]
      rfl

/-- The text after an opening quote does not start with two more quotes. -/
theorem take_two_written_ne (hmark : isQuoteMark mark = true) (t : CodeText) :
    (t.written mark ++ [mark]).take 2 ≠ [mark, mark] := by
  cases t with
  | nil => simp [CodeText.written]
  | cons p t =>
    rw [CodeText.written, List.flatMap_cons, List.append_assoc]
    obtain ⟨c, rfl, heq, hc, -, -⟩ | ⟨first, digits, heq, -⟩ := p.escape_cases hmark
    · rw [heq]
      simp [hc]
    · have hslash : mark ≠ '\\' := by
        rintro rfl
        exact absurd hmark (by decide)
      rw [heq]
      simp [hslash.symm]

/-- A quoted text is one token. -/
theorem token?_quote (t : CodeText) : token? t.quote = some ⟨.text t, []⟩ := by
  have hmark := t.isQuoteMark_quoteMark
  have htoken : QuoteKind.token? ⟨false, false, false⟩ (t.written t.quoteMark) =
      some (.text t) := by
    change ((Text.unescape? true _).bind CodeText.ofNats?).map Token.text = _
    rw [CodeText.unescape?_written hmark, Option.bind_some, CodeText.ofNats?_map_toNat]
    rfl
  rw [CodeText.quote_eq, token?, if_pos hmark, quoted?,
    if_neg (by simpa using take_two_written_ne hmark t), quotedBody_written hmark]
  change (QuoteKind.token? ⟨false, false, false⟩ (t.written t.quoteMark)).bind
    (fun token => some (⟨token, []⟩ : Scanned Token)) = _
  rw [htoken]
  rfl

/-- A line that starts with a quote starts a literal. -/
theorem lineStart?_cons (hmark : isQuoteMark mark = true) (rest : Text) :
    lineStart? (mark :: rest) = some (mark :: rest) := by
  rw [isQuoteMark, Bool.or_eq_true, beq_iff_eq, beq_iff_eq] at hmark
  rcases hmark with rfl | rfl
  · rfl
  · rfl

/-- A text that is one quoted form is read as one token. -/
theorem lex_of_token? (hmark : isQuoteMark mark = true) {rest : Text} {found : Token}
    (h : token? (mark :: rest) = some ⟨found, []⟩) : lex 0 false (mark :: rest) = some [found] := by
  have hnil : ∀ depth begun, lex depth begun [] = some [] := fun depth begun => by rw [lex]
  rw [isQuoteMark, Bool.or_eq_true, beq_iff_eq, beq_iff_eq] at hmark
  rw [lex.eq_def]
  dsimp only
  rw [h]
  rcases hmark with rfl | rfl
  · simp [hnil]
  · simp [hnil]

/-- A quoted text is one token, which is the text. -/
theorem tokens?_quote (t : CodeText) : tokens? t.quote = some [.text t] := by
  have hmark := t.isQuoteMark_quoteMark
  have hnull : t.quote.contains '\x00' = false := by
    rw [← Bool.not_eq_true, List.contains_iff_mem]
    intro hmem
    exact absurd (CodeText.isPrintable_of_mem_quote hmem) (by decide)
  have hunify : Text.unifyLineEnds t.quote = t.quote := by
    refine Text.unifyLineEnds_eq_self fun hmem => ?_
    exact absurd (CodeText.isPrintable_of_mem_quote hmem) (by decide)
  have hstart : lineStart? t.quote = some t.quote := lineStart?_cons hmark _
  rw [tokens?, hnull, hunify, hstart]
  exact lex_of_token? hmark (token?_quote t)

/-- A quoted text is a literal whose value is the text. -/
theorem read_quote (t : CodeText) : read t.quote = .ok (some (.text t)) := by
  have hitems : items? t.quote = some [.token (.text t)] := by
    rw [items?, tokens?_quote]
    rfl
  rw [read, CodeText.trim_quote, hitems]
  dsimp only
  rw [Shape.ofItems_text]
  change Except.ok (some (Value.text (t ++ []))) = _
  rw [List.append_nil]

end Literal

end Haml
