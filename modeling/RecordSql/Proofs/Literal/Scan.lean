import RecordSql.Literal

/-! # Scanning statement text

How a dialect reads string literals in statement text. A scan (`Dialect.scan`) tells the characters
outside of literals from the literals, which it decodes. Scans of two texts join when the first ends
outside of a literal and the two do not meet in quotation marks: `scan_append`. A quoted text is one
literal: `scan_quoted`. -/

namespace RecordSql

/-- A part of statement text. -/
inductive Part
  /-- A character outside of literals. -/
  | plain (c : Char)
  /-- A string literal with its decoded content. -/
  | literal (content : Text)
  deriving DecidableEq, Repr

/-- What a dialect reads in a text. -/
structure Scan where
  /-- The parts read, in order. -/
  parts : List Part
  /-- The content so far of a literal that is open at the end. -/
  unclosed : Option Text
  deriving DecidableEq, Repr

namespace Scan

/-- The scan with the part `p` before it. -/
def cons (p : Part) (s : Scan) : Scan := ⟨p :: s.parts, s.unclosed⟩

/-- The parts of `s`, then those of `t`, which says whether a literal is open at the end. -/
def append (s t : Scan) : Scan := ⟨s.parts ++ t.parts, t.unclosed⟩

theorem cons_append (p : Part) (s t : Scan) : (s.cons p).append t = (s.append t).cons p := rfl

end Scan

namespace Dialect

/-- Read a text outside of a literal (`none`), or inside of one whose content so far is given.
Inside, two quotation marks are one, a backslash that escapes takes the next character as it is, and
any other quotation mark closes the literal. -/
def scanFrom (d : Dialect) : (inside : Option Text) → Text → Scan
  | inside, [] => ⟨[], inside⟩
  | none, c :: rest =>
    if c = quoteMark then scanFrom d (some []) rest else (scanFrom d none rest).cons (.plain c)
  | some content, c :: rest =>
    if c = quoteMark then
      match rest with
      | [] => ⟨[.literal content], none⟩
      | q :: after =>
        if q = quoteMark then scanFrom d (some (content ++ [quoteMark])) after
        else (scanFrom d none (q :: after)).cons (.literal content)
    else if d.escapesBackslash ∧ c = '\\' then
      match rest with
      | [] => ⟨[], some content⟩
      | e :: after => scanFrom d (some (content ++ [e])) after
    else scanFrom d (some (content ++ [c])) rest

/-- Read a text that begins outside of literals. -/
def scan (d : Dialect) (text : Text) : Scan := d.scanFrom none text

variable (d : Dialect)

/-! ### Equations of `scanFrom` -/

@[simp] theorem scan_nil : d.scan [] = ⟨[], none⟩ := rfl

theorem scan_cons_quote (rest : Text) :
    d.scan (quoteMark :: rest) = d.scanFrom (some []) rest := by
  rw [scan, scanFrom, if_pos rfl]

theorem scan_cons_of_ne {c : Char} (h : c ≠ quoteMark) (rest : Text) :
    d.scan (c :: rest) = (d.scan rest).cons (.plain c) := by
  rw [scan, scanFrom, if_neg h]
  rfl

/-- Inside of a literal `quoteMark :: quoteMark` is one quotation mark of its content. -/
theorem scanFrom_doubled (content rest : Text) :
    d.scanFrom (some content) (quoteMark :: quoteMark :: rest)
      = d.scanFrom (some (content ++ [quoteMark])) rest := by
  rw [scanFrom, if_pos rfl]
  exact if_pos rfl

/-- A `quoteMark` that is not followed by another closes the literal. -/
theorem scanFrom_closing (content : Text) {rest : Text} (h : rest.head? ≠ some quoteMark) :
    d.scanFrom (some content) (quoteMark :: rest) = (d.scan rest).cons (.literal content) := by
  rw [scanFrom.eq_def]
  cases rest with
  | nil => rfl
  | cons c after =>
    have hc : c ≠ quoteMark := by simpa using h
    exact if_neg hc

/-- Where `escapesBackslash`, a backslash takes the next character as it is. -/
theorem scanFrom_escape (h : d.escapesBackslash) (content : Text) (c : Char) (rest : Text) :
    d.scanFrom (some content) ('\\' :: c :: rest) = d.scanFrom (some (content ++ [c])) rest := by
  rw [scanFrom, if_neg (by decide)]
  exact if_pos ⟨h, rfl⟩

/-- Any other character inside of a literal is content. -/
theorem scanFrom_content {c : Char} (hquote : c ≠ quoteMark)
    (hescape : ¬ (d.escapesBackslash ∧ c = '\\')) (content rest : Text) :
    d.scanFrom (some content) (c :: rest) = d.scanFrom (some (content ++ [c])) rest := by
  rw [scanFrom.eq_def]
  exact (if_neg hquote).trans (if_neg hescape)

/-- A character is special when it would close the literal or escape. -/
theorem isSpecial_iff {c : Char} :
    d.isSpecial c ↔ c = quoteMark ∨ (d.escapesBackslash ∧ c = '\\') := by
  simp [isSpecial]

/-! ### Joining: `scan_append` -/

/-- Two texts that do not meet in quotation marks do not when the first is shortened in front; the
premise of `scanFrom_append` for its induction. -/
theorem joint_of_cons {c : Char} {a b : Text}
    (h : b.head? = some quoteMark → (c :: a).getLast? ≠ some quoteMark) :
    b.head? = some quoteMark → a.getLast? ≠ some quoteMark := by
  intro hb
  cases a with
  | nil => simp
  | cons e a =>
    rw [← List.getLast?_cons_cons (a := c)]
    exact h hb

/-- **Scans join**: the scan of `a ++ b` is that of `a`, then that of `b`, if `a` closes its
literals and the two do not meet in quotation marks. -/
theorem scanFrom_append {inside : Option Text} {a b : Text}
    (hclosed : (d.scanFrom inside a).unclosed = none)
    (hjoint : b.head? = some quoteMark → a.getLast? ≠ some quoteMark) :
    d.scanFrom inside (a ++ b) = (d.scanFrom inside a).append (d.scan b) := by
  fun_induction scanFrom d inside a with
  | case1 inside =>
    change inside = none at hclosed
    rw [hclosed]
    rfl
  | case2 rest ih =>
    -- a mark outside of literals opens one
    rw [List.cons_append, ← ih hclosed (joint_of_cons hjoint)]
    exact d.scan_cons_quote (rest ++ b)
  | case3 c rest hc ih =>
    rw [List.cons_append, Scan.cons_append, ← ih hclosed (joint_of_cons hjoint)]
    exact d.scan_cons_of_ne hc (rest ++ b)
  | case4 content =>
    -- the only case in which the next text could take the closing mark for its own
    rw [List.singleton_append, scanFrom_closing d content (fun hb => hjoint hb rfl)]
    rfl
  | case5 content after ih =>
    rw [List.cons_append, List.cons_append, scanFrom_doubled]
    exact ih hclosed (joint_of_cons (joint_of_cons hjoint))
  | case6 content q after hq ih =>
    rw [List.cons_append, scanFrom_closing d content (by simpa using hq), Scan.cons_append,
      ← ih hclosed (joint_of_cons hjoint)]
    rfl
  | case7 content c hc hescape =>
    -- a backslash at the end leaves the literal open
    cases hclosed
  | case8 content c hc hescape e after ih =>
    obtain ⟨hescapes, rfl⟩ := hescape
    rw [List.cons_append, List.cons_append, scanFrom_escape d hescapes]
    exact ih hclosed (joint_of_cons (joint_of_cons hjoint))
  | case9 content c rest hc hescape ih =>
    rw [List.cons_append, scanFrom_content d hc hescape]
    exact ih hclosed (joint_of_cons hjoint)

/-- The scan of two texts that begin outside of literals:
`d.scan (a ++ b) = (d.scan a).append (d.scan b)`. -/
theorem scan_append {a b : Text} (hclosed : (d.scan a).unclosed = none)
    (hjoint : b.head? = some quoteMark → a.getLast? ≠ some quoteMark) :
    d.scan (a ++ b) = (d.scan a).append (d.scan b) :=
  d.scanFrom_append hclosed hjoint

/-! ### Quoted and plain texts -/

/-- Inside of a literal an escaped text and a closing mark are the rest of that literal. -/
theorem scanFrom_escaped (before content : Text) :
    d.scanFrom (some before) (content.flatMap d.escaped ++ [quoteMark])
      = ⟨[.literal (before ++ content)], none⟩ := by
  induction content generalizing before with
  | nil =>
    rw [List.flatMap_nil, List.nil_append, scanFrom_closing d before (by simp), List.append_nil]
    rfl
  | cons c content ih =>
    have hcontent : before ++ c :: content = before ++ [c] ++ content := by simp
    rw [hcontent, ← ih, List.flatMap_cons, List.append_assoc, escaped]
    by_cases hc : d.isSpecial c
    · -- written twice, and read back as one: a doubled mark or an escaped backslash
      rw [if_pos hc]
      rcases d.isSpecial_iff.1 hc with rfl | ⟨hescapes, rfl⟩
      · exact d.scanFrom_doubled before _
      · exact d.scanFrom_escape hescapes before '\\' _
    · rw [if_neg hc]
      rw [isSpecial_iff, not_or] at hc
      exact d.scanFrom_content hc.1 hc.2 before _

/-- **A quoted text is one literal**, and its content is that text: `⟨[.literal content], none⟩`. -/
theorem scan_quoted (content : Text) :
    d.scan (quoteMark :: content.flatMap d.escaped ++ [quoteMark])
      = ⟨[.literal content], none⟩ := by
  rw [List.cons_append, scan_cons_quote, scanFrom_escaped, List.nil_append]

end Dialect

end RecordSql
