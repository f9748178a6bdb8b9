import RecordSql.Proofs.Literal.Scan
import RecordSql.Proofs.Text.Occurrence

/-! # Comments outside of string literals

Two hyphens side by side begin a comment, unless they stand in a string literal
(`Dialect.OpensComment`). To find them a text can be read character by character, with no look at
what follows: a quotation mark inside of a literal closes it, and a second one behind opens it
again. What stands outside is the same as for the scanner, which takes two marks for one:
`opensComment_iff`. A text read this way can be cut anywhere: `masked_append`. -/

namespace RecordSql

/-- Whether two hyphens stand side by side outside of string literals. -/
def Dialect.OpensComment (d : Dialect) (text : Text) : Prop :=
  [.plain '-', .plain '-'] <:+: (d.scan text).parts

instance (d : Dialect) (text : Text) : Decidable (d.OpensComment text) :=
  inferInstanceAs (Decidable (_ <:+: _))

/-- Where a reader of a text stands. -/
inductive LiteralState
  /-- Outside of string literals. -/
  | outside
  /-- Inside of a literal. -/
  | inside
  /-- Inside of a literal, behind a backslash that takes the next character as it is. -/
  | escaping
  deriving DecidableEq, Repr

namespace LiteralState

/-- Where a reader in a state stands behind one more character `c`. -/
def next (d : Dialect) : LiteralState → Char → LiteralState
  | outside, c => if c = quoteMark then inside else outside
  | inside, c =>
    if c = quoteMark then outside
    else if d.escapesBackslash ∧ c = '\\' then escaping
    else inside
  | escaping, _ => inside

/-- Where a reader that begins in the state `s` stands behind a text. -/
def after (d : Dialect) (s : LiteralState) (text : Text) : LiteralState := text.foldl (next d) s

variable {d : Dialect} {s : LiteralState}

@[simp] theorem after_nil : s.after d [] = s := rfl

@[simp] theorem after_cons (c : Char) (rest : Text) :
    s.after d (c :: rest) = (s.next d c).after d rest := rfl

theorem after_append (a b : Text) : s.after d (a ++ b) = (s.after d a).after d b :=
  List.foldl_append

/-- A quotation mark opens a literal. -/
@[simp] theorem next_outside_quoteMark : outside.next d quoteMark = inside := rfl

/-- Any other character outside stays outside. -/
theorem next_outside_of_ne {c : Char} (h : c ≠ quoteMark) : outside.next d c = outside := if_neg h

/-- A quotation mark closes a literal. -/
@[simp] theorem next_inside_quoteMark : inside.next d quoteMark = outside := rfl

/-- Where the scanner stands: inside when it has a content, that is read so far, of a literal. -/
def ofContent : Option Text → LiteralState
  | none => outside
  | some _ => inside

theorem ofContent_some_ne (content : Text) : ofContent (some content) ≠ outside := by
  rw [ofContent]
  decide

end LiteralState

open LiteralState

namespace Dialect

/-- The text with a `quoteMark` in the place of each character that is not outside of literals. -/
def masked (d : Dialect) : LiteralState → Text → Text
  | _, [] => []
  | s, c :: rest => (if s = outside then c else quoteMark) :: masked d (s.next d c) rest

variable {d : Dialect} {s : LiteralState}

@[simp] theorem masked_nil : d.masked s [] = [] := rfl

theorem masked_cons (c : Char) (rest : Text) :
    d.masked s (c :: rest) = (if s = outside then c else quoteMark) :: d.masked (s.next d c) rest :=
  rfl

/-- **A text is masked part by part**, each from where the reader stands behind the part before: `b`
from `s.after d a`. -/
theorem masked_append (a b : Text) :
    d.masked s (a ++ b) = d.masked s a ++ d.masked (s.after d a) b := by
  induction a generalizing s with
  | nil => rfl
  | cons c a ih => rw [List.cons_append, masked_cons, masked_cons, ih, after_cons, List.cons_append]

/-- A quotation mark is no hyphen. -/
theorem head?_quoteMark_ne (rest : Text) : (quoteMark :: rest).head? ≠ some '-' :=
  fun h => absurd (Option.some.inj h) (by decide)

/-- Inside of a literal no hyphen shows in front. -/
theorem head?_masked_of_ne (h : s ≠ outside) (text : Text) :
    (d.masked s text).head? ≠ some '-' := by
  cases text with
  | nil => simp
  | cons c rest =>
    rw [masked_cons, if_neg h]
    exact head?_quoteMark_ne _

/-- A text without quotation marks shows as it is, and the reader ends outside. -/
theorem masked_of_not_mem {text : Text} (h : quoteMark ∉ text) :
    d.masked outside text = text ∧ outside.after d text = outside := by
  induction text with
  | nil => exact ⟨rfl, rfl⟩
  | cons c rest ih =>
    rw [List.mem_cons, not_or] at h
    rw [masked_cons, after_cons, next_outside_of_ne (Ne.symm h.1), (ih h.2).1, (ih h.2).2]
    exact ⟨rfl, rfl⟩

/-- A text that ends outside shows its last character, if that is a hyphen. -/
theorem getLast?_masked {text : Text} (h : outside.after d text = outside) :
    (d.masked outside text).getLast? = some '-' ↔ text.getLast? = some '-' := by
  rcases List.eq_nil_or_concat' text with rfl | ⟨front, c, rfl⟩
  · rfl
  · rw [after_append, after_cons, after_nil] at h
    rw [masked_append, masked_cons, masked_nil, List.getLast?_concat, List.getLast?_concat,
      Option.some.injEq, Option.some.injEq]
    cases hstate : outside.after d front with
    | outside => rw [if_pos rfl]
    | inside =>
      -- only a quotation mark leads outside from here
      rw [if_neg (by decide)]
      refine iff_of_false (by decide) ?_
      rintro rfl
      rw [hstate, next, if_neg (by decide), if_neg (fun hboth => absurd hboth.2 (by decide))] at h
      cases h
    | escaping =>
      rw [hstate] at h
      cases h

/-! ### Quoted texts -/

/-- An escaped text inside of a literal stays inside and shows nothing but `quoteMark`s. -/
theorem masked_escaped (content : Text) :
    (∀ c ∈ d.masked inside (content.flatMap d.escaped), c = quoteMark) ∧
      inside.after d (content.flatMap d.escaped) = inside := by
  induction content with
  | nil => exact ⟨by simp, rfl⟩
  | cons c content ih =>
    -- one character's escape: it shows quote marks only and ends `inside` again
    have hstep : inside.after d (d.escaped c) = inside ∧
        ∀ e ∈ d.masked inside (d.escaped c), e = quoteMark := by
      rw [escaped]
      by_cases hc : d.isSpecial c
      · rw [if_pos hc]
        rcases d.isSpecial_iff.1 hc with rfl | ⟨hescapes, rfl⟩
        · -- a quote mark is written twice
          exact ⟨by simp, by simp [masked]⟩
        · -- the first backslash escapes the second
          have hnext : inside.next d '\\' = escaping := by
            rw [next, if_neg (by decide), if_pos ⟨hescapes, rfl⟩]
          have hback : escaping.next d '\\' = inside := rfl
          simp [masked, hnext, hback]
      · rw [if_neg hc]
        rw [isSpecial_iff, not_or] at hc
        have hnext : inside.next d c = inside := by
          rw [next, if_neg hc.1, if_neg hc.2]
        simp [masked, hnext]
    rw [List.flatMap_cons, masked_append, after_append, hstep.1, List.forall_mem_append]
    exact ⟨⟨hstep.2, ih.1⟩, ih.2⟩

/-- **A quoted text ends outside and shows nothing** but `quoteMark`s. -/
theorem masked_quoted (content : Text) :
    (∀ c ∈ d.masked outside (quoteMark :: content.flatMap d.escaped ++ [quoteMark]), c = quoteMark) ∧
      outside.after d (quoteMark :: content.flatMap d.escaped ++ [quoteMark]) = outside := by
  obtain ⟨hmasked, hafter⟩ := masked_escaped (d := d) content
  rw [List.cons_append, masked_cons, after_cons, next_outside_quoteMark, masked_append, after_append,
    hafter, masked_cons, after_cons, next_inside_quoteMark]
  refine ⟨?_, rfl⟩
  rw [List.forall_mem_cons, List.forall_mem_append]
  exact ⟨if_pos rfl, hmasked, by simp⟩

/-! ### As the scanner reads: `ShowsAlike` -/

/-- Whether `parts` and a `mask` show the same hyphens: in front, and side by side. -/
structure ShowsAlike (parts : List Part) (mask : Text) : Prop where
  head_iff : parts.head? = some (.plain '-') ↔ mask.head? = some '-'
  pair_iff : [.plain '-', .plain '-'] <:+: parts ↔ ['-', '-'] <:+: mask

namespace ShowsAlike

variable {parts : List Part} {mask : Text}

theorem nil : ShowsAlike [] [] := ⟨by simp, by simp⟩

/-- A character outside of literals shows. -/
theorem plain (h : ShowsAlike parts mask) (c : Char) : ShowsAlike (.plain c :: parts) (c :: mask) where
  head_iff := by simp
  pair_iff := by
    rw [Text.pair_infix_cons_iff, Text.pair_infix_cons_iff, h.head_iff, h.pair_iff]
    simp

/-- The end of a literal shows nothing, and ends a part. -/
theorem literal (h : ShowsAlike parts mask) (content : Text) :
    ShowsAlike (.literal content :: parts) (quoteMark :: mask) where
  head_iff := iff_of_false (by simp) (head?_quoteMark_ne mask)
  pair_iff := by
    rw [Text.pair_infix_cons_iff, Text.pair_infix_cons_iff, h.pair_iff]
    exact or_congr_left (iff_of_false (fun hboth => by cases hboth.1) fun hboth => by
      exact absurd hboth.1 (by decide))

/-- Any other character of a literal shows nothing, and begins no part. -/
theorem hidden (h : ShowsAlike parts mask) (hmask : mask.head? ≠ some '-') :
    ShowsAlike parts (quoteMark :: mask) where
  head_iff := iff_of_false (mt h.head_iff.1 hmask) (head?_quoteMark_ne mask)
  pair_iff := by
    rw [Text.pair_infix_cons_iff, h.pair_iff]
    exact (or_iff_right fun hboth => absurd hboth.1 (by decide)).symm

end ShowsAlike

variable (d)

/-- **The scanner and the reader show the same hyphens**, and end outside together. The scanner may
take two marks for one, so the induction is its own, with any content read before. -/
theorem scanFrom_showsAlike (content? : Option Text) (text : Text) :
    ShowsAlike (d.scanFrom content? text).parts (d.masked (ofContent content?) text) ∧
      ((d.scanFrom content? text).unclosed = none ↔
        (ofContent content?).after d text = outside) := by
  fun_induction scanFrom d content? text with
  | case1 content? => cases content? <;> exact ⟨.nil, by simp [ofContent]⟩
  | case2 rest ih =>
    -- a mark outside of literals opens one
    rw [ofContent, masked_cons, after_cons, next_outside_quoteMark, if_pos rfl]
    exact ⟨ih.1.hidden (head?_masked_of_ne (ofContent_some_ne _) rest), ih.2⟩
  | case3 c rest hc ih =>
    rw [ofContent, masked_cons, after_cons, next_outside_of_ne hc, if_pos rfl]
    exact ⟨ih.1.plain c, ih.2⟩
  | case4 content =>
    rw [ofContent, masked_cons, after_cons, next_inside_quoteMark, if_neg (by decide)]
    exact ⟨ShowsAlike.nil.literal content, by simp⟩
  | case5 content after ih =>
    -- two marks: the reader is outside between them, where nothing shows
    rw [ofContent, masked_cons, masked_cons, after_cons, after_cons, next_inside_quoteMark,
      next_outside_quoteMark, if_neg (by decide), if_pos rfl]
    exact ⟨(ih.1.hidden (head?_masked_of_ne (ofContent_some_ne _) after)).hidden (head?_quoteMark_ne _), ih.2⟩
  | case6 content q after hq ih =>
    rw [ofContent, masked_cons, after_cons, next_inside_quoteMark, if_neg (by decide)]
    exact ⟨ih.1.literal content, ih.2⟩
  | case7 content c hc hescape =>
    have hnext : inside.next d c = escaping := by rw [next, if_neg hc, if_pos hescape]
    rw [ofContent, masked_cons, after_cons, hnext, if_neg (by decide)]
    exact ⟨ShowsAlike.nil.hidden (by decide), by simp⟩
  | case8 content c hc hescape e after ih =>
    have hnext : inside.next d c = escaping := by rw [next, if_neg hc, if_pos hescape]
    have hback : escaping.next d e = inside := rfl
    rw [ofContent, masked_cons, masked_cons, after_cons, after_cons, hnext, hback,
      if_neg (by decide), if_neg (by decide)]
    exact ⟨(ih.1.hidden (head?_masked_of_ne (ofContent_some_ne _) after)).hidden (head?_quoteMark_ne _), ih.2⟩
  | case9 content c rest hc hescape ih =>
    have hnext : inside.next d c = inside := by rw [next, if_neg hc, if_neg hescape]
    rw [ofContent, masked_cons, after_cons, hnext, if_neg (by decide)]
    exact ⟨ih.1.hidden (head?_masked_of_ne (ofContent_some_ne _) rest), ih.2⟩

variable {d}

/-- **A comment is two hyphens in the masked text**: `['-', '-'] <:+: d.masked outside text`. -/
theorem opensComment_iff {text : Text} :
    d.OpensComment text ↔ ['-', '-'] <:+: d.masked outside text :=
  (d.scanFrom_showsAlike none text).1.pair_iff

/-- The scan of a text has no `unclosed` literal when the reader ends outside. -/
theorem unclosed_scan_iff {text : Text} :
    (d.scan text).unclosed = none ↔ outside.after d text = outside :=
  (d.scanFrom_showsAlike none text).2

end Dialect

end RecordSql
