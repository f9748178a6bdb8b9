import Mathlib.Data.List.Nodup
import RecordSql.Proofs.Declaration.Faults
import RecordSql.Proofs.Text.Parts

/-! # Distinct constants

The constant of a field tells the words of its name in capitals, and nothing else
(`ofField_eq_ofField_iff`). So the fields of a record have distinct constants exactly if their names
differ in these words. Distinct names in snake case do (`IsSnakeCase`). Other names may not: the
case of letters is lost, and so are underscores at an end or next to each other, and no declaration
is refused because two of its constants meet. -/

namespace RecordSql

namespace Text

variable {c x : Char} {t : Text} {ts us : List Text}

/-! ### Capitals: `capitalsOf` -/

/-- **Where capitals come from**: the table `capitalExpansions` of those with several characters, a
span of `capitalShifts` whose capital lies at a fixed distance, or the character itself. -/
theorem capitalsOf_cases (c : Char) :
    (∃ e ∈ capitalExpansions, capitalsOf c = e.2.map Char.ofNat) ∨
    (∃ s ∈ capitalShifts, s.1.covers c.toNat = true ∧
      capitalsOf c = [Char.ofNat (c.toNat + s.2).toNat]) ∨
    capitalsOf c = [c] := by
  rw [capitalsOf]
  split
  · next points hpoints =>
    obtain ⟨_, _, htable, -⟩ := List.lookup_eq_some_iff.1 hpoints
    exact .inl ⟨(c.toNat, points), by simp [htable], rfl⟩
  · split
    · next s hfound =>
      exact .inr (.inl ⟨s, List.mem_of_find?_eq_some hfound, by simpa using List.find?_some hfound,
        rfl⟩)
    · exact .inr (.inr rfl)

/-- A character has at least one capital. -/
theorem capitalsOf_ne_nil (c : Char) : capitalsOf c ≠ [] := by
  have hexpansions : ∀ e ∈ capitalExpansions, e.2 ≠ [] := by decide +kernel
  obtain ⟨e, he, hcapitals⟩ | ⟨_, -, -, hcapitals⟩ | hcapitals := capitalsOf_cases c
  · simpa [hcapitals] using hexpansions e he
  · simp [hcapitals]
  · simp [hcapitals]

theorem eq_of_ofNat_eq_underscore {n : Nat} (h : Char.ofNat n = '_') : n = '_'.toNat := by
  by_cases hvalid : n.isValidChar
  · rw [← h, Char.ofNat, dif_pos hvalid]
    rfl
  · have hnull : Char.ofNat n = Char.ofNat 0 := dif_neg hvalid
    exact absurd (hnull.symm.trans h) (by decide)

/-- The underscore is the capital of no other character. -/
theorem underscore_not_mem_capitalsOf (h : c ≠ '_') : '_' ∉ capitalsOf c := by
  have hexpansions : ∀ e ∈ capitalExpansions, '_' ∉ e.2.map Char.ofNat := by decide +kernel
  have hshifts : ∀ s ∈ capitalShifts, s.1.covers ('_'.toNat - s.2).toNat = false := by
    decide +kernel
  obtain ⟨e, he, hcapitals⟩ | ⟨s, hs, hcovers, hcapitals⟩ | hcapitals := capitalsOf_cases c
  · rw [hcapitals]
    exact hexpansions e he
  · -- the span would have to cover what lies as far before the underscore
    intro hmem
    rw [hcapitals, List.mem_singleton] at hmem
    have hpoint := eq_of_ofNat_eq_underscore hmem.symm
    have hbefore : ('_'.toNat - s.2).toNat = c.toNat := by
      have hunderscore : '_'.toNat = 95 := rfl
      omega
    have hshift := hshifts s hs
    rw [hbefore, hcovers] at hshift
    cases hshift
  · simpa [hcapitals] using Ne.symm h

theorem capitalized_ne_nil (h : t ≠ []) : capitalized t ≠ [] := by
  obtain ⟨c, rest, rfl⟩ := List.exists_cons_of_ne_nil h
  simp [capitalized, capitalsOf_ne_nil]

theorem underscore_not_mem_capitalized (h : '_' ∉ t) : '_' ∉ capitalized t := by
  intro hmem
  obtain ⟨c, hc, hcapital⟩ := List.mem_flatMap.1 hmem
  exact underscore_not_mem_capitalsOf (fun heq => h (heq ▸ hc)) hcapital

/-! ### Taking apart what is joined -/

/-- Texts without the character `x` that joins them are what stands between its occurrences. -/
theorem filter_splitOn_joined (h : ∀ t ∈ ts, t ≠ [] ∧ x ∉ t) :
    ((joined [x] ts).splitOn x).filter (fun t => !t.isEmpty) = ts := by
  by_cases hnil : ts = []
  · -- nothing joined is split into one empty piece, which is no text
    simp [hnil]
  · rw [joined_eq_intercalate, List.splitOn_intercalate x (fun t ht => (h t ht).2) hnil,
      List.filter_eq_self]
    intro t ht
    simpa using (h t ht).1

theorem joined_inj (hts : ∀ t ∈ ts, t ≠ [] ∧ x ∉ t) (hus : ∀ t ∈ us, t ≠ [] ∧ x ∉ t) :
    joined [x] ts = joined [x] us ↔ ts = us := by
  refine ⟨fun h => ?_, congrArg _⟩
  rw [← filter_splitOn_joined hts, h, filter_splitOn_joined hus]

end Text

namespace ConstantName

open Text (isAlphanumeric isCapital capitalized joined)

variable {m : LetterCase} {word run a b name x y : Text} {c : Char}

theorem not_isAlphanumeric_underscore : isAlphanumeric '_' = false := by decide +kernel

/-! ### Words: `splitCase` and `runs` -/

/-- The words of a run make up the run: with `word` read and `run` ahead, they are together
`word ++ run`. -/
theorem flatten_splitCase (m : LetterCase) (word run : Text) :
    (splitCase m word run).flatten = word ++ run := by
  fun_induction splitCase m word run <;> simp_all

/-- A run has no empty word. Where the last letter is a capital, it belongs to the word read, so
that this is not empty when it ends. -/
theorem nil_not_mem_splitCase (h : m = .capital → word ≠ []) : [] ∉ splitCase m word run := by
  fun_induction splitCase m word run <;> simp_all

/-- A run without capitals is one word. -/
theorem splitCase_of_small (hm : m ≠ .capital) (hne : word ++ run ≠ [])
    (h : ∀ c ∈ run, isCapital c = false) : splitCase m word run = [word ++ run] := by
  induction m, word, run using splitCase.induct with
  | case1 m word hempty => simp_all
  | case2 m word hempty => simp_all [splitCase]
  | case3 m word c => rw [splitCase]
  | case4 m word c d rest hcut ih => simp_all
  | case5 m word c d rest hcut hcapital ih => simp_all
  | case6 m word c d rest hcut hcapital ih =>
    -- the word goes on, and the last letter is still no capital
    obtain ⟨hc, hrest⟩ := List.forall_mem_cons.1 h
    have hnext : m.next c ≠ .capital := by
      rw [LetterCase.next, hc]
      split <;> simp_all
    rw [splitCase, if_neg hcut, if_neg hcapital, ih hnext (by simp) hrest]
    simp

/-- `runs` end where a character is neither a letter nor a numeral. -/
theorem runs_append_cons (hc : isAlphanumeric c = false) (run x y : Text) :
    runs run (x ++ c :: y) = runs run x ++ runs [] y := by
  induction x generalizing run with
  | nil => simp [runs, hc]
  | cons d x ih =>
    rw [List.cons_append, runs, runs, ih, ih]
    split <;> rfl

theorem runs_of_forall (h : ∀ c ∈ x, isAlphanumeric c = true) : runs run x = [run ++ x] := by
  induction x generalizing run with
  | nil => simp [runs]
  | cons d x ih =>
    obtain ⟨hd, hx⟩ := List.forall_mem_cons.1 h
    simp [runs, hd, ih hx]

/-- A run is made of letters and numerals. -/
theorem isAlphanumeric_of_mem_runs (hrun : ∀ c ∈ run, isAlphanumeric c = true) :
    ∀ r ∈ runs run x, ∀ c ∈ r, isAlphanumeric c = true := by
  induction x generalizing run with
  | nil => simpa [runs] using hrun
  | cons d x ih =>
    rw [runs]
    split
    · next hd =>
      refine ih fun c hc => ?_
      obtain hc | rfl := List.mem_append.1 hc |>.imp_right List.mem_singleton.1
      · exact hrun c hc
      · exact hd
    · exact List.forall_mem_cons.2 ⟨hrun, ih fun c hc => nomatch hc⟩

/-- **Words end where a character is neither a letter nor a numeral**: `words` goes through
`x ++ c :: y`. -/
theorem words_append_cons (hc : isAlphanumeric c = false) (x y : Text) :
    words (x ++ c :: y) = words x ++ words y := by
  rw [words, runs_append_cons hc, List.flatMap_append]
  rfl

/-- A word is not empty and made of letters and numerals. -/
theorem ne_nil_and_isAlphanumeric_of_mem_words {w : Text} (h : w ∈ words name) :
    w ≠ [] ∧ ∀ c ∈ w, isAlphanumeric c = true := by
  obtain ⟨r, hr, hw⟩ := List.mem_flatMap.1 h
  constructor
  · rintro rfl
    exact nil_not_mem_splitCase (by simp) hw
  · intro c hc
    have hflat : c ∈ (splitCase .unset [] r).flatten := List.mem_flatten_of_mem hw hc
    rw [flatten_splitCase, List.nil_append] at hflat
    exact isAlphanumeric_of_mem_runs (by simp) r hr c hflat

/-! ### What a constant tells: `capitalWords` -/

/-- The words of a name in capitals, `capitalized` one by one. -/
def capitalWords (name : Text) : List Text := (words name).map capitalized

/-- No word in capitals is empty or has an underscore, so that underscores keep them apart. -/
theorem ne_nil_and_underscore_not_mem_of_mem_capitalWords {w : Text} (h : w ∈ capitalWords name) :
    w ≠ [] ∧ '_' ∉ w := by
  obtain ⟨v, hv, rfl⟩ := List.mem_map.1 h
  obtain ⟨hne, halphanumeric⟩ := ne_nil_and_isAlphanumeric_of_mem_words hv
  refine ⟨Text.capitalized_ne_nil hne, Text.underscore_not_mem_capitalized fun hmem => ?_⟩
  exact absurd (halphanumeric '_' hmem) (by simp [not_isAlphanumeric_underscore])

/-- **A constant tells the words in capitals**, and nothing else: two names have one constant
exactly if they have the same `capitalWords`. -/
theorem ofField_eq_ofField_iff : ofField a = ofField b ↔ capitalWords a = capitalWords b := by
  have hwords : ∀ name, ∀ w ∈ capitalWords name, w ≠ [] ∧ '_' ∉ w := fun name w hw =>
    ne_nil_and_underscore_not_mem_of_mem_capitalWords hw
  rw [← Text.joined_inj (hwords a) (hwords b)]
  exact List.append_right_inj initial

/-- An underscore in front of a name is lost: `_id` and `id` have one constant. -/
theorem ofField_underscore_cons (name : Text) : ofField ('_' :: name) = ofField name := by
  have hwords : words ('_' :: name) = words [] ++ words name :=
    words_append_cons not_isAlphanumeric_underscore [] name
  rw [ofField_eq_ofField_iff, capitalWords, hwords]
  rfl

/-! ### Snake case: `IsSnakeCase` -/

/-- Whether a word in snake case may have the character. -/
def isSnakeChar (c : Char) : Bool := c.isLower || c.isDigit

/-- **Names in snake case**: between its underscores stand words of small letters and digits, none
empty. -/
def IsSnakeCase (name : Text) : Prop :=
  ∀ w ∈ name.splitOn '_', w ≠ [] ∧ w.all isSnakeChar = true

instance (name : Text) : Decidable (IsSnakeCase name) :=
  inferInstanceAs (Decidable (∀ w ∈ name.splitOn '_', w ≠ [] ∧ w.all isSnakeChar = true))

/-- The characters of snake case make up words, and their capitals tell them, by a look at each of
them. -/
theorem spec_of_isSnakeChar (h : isSnakeChar c = true) :
    isAlphanumeric c = true ∧ isCapital c = false ∧
      (Text.capitalsOf c).map Char.toLower = [c] := by
  -- all of them are in ASCII, where the tables can be looked up one by one
  have hascii : ∀ n < 128, isSnakeChar (Char.ofNat n) = true →
      isAlphanumeric (Char.ofNat n) = true ∧ isCapital (Char.ofNat n) = false ∧
        (Text.capitalsOf (Char.ofNat n)).map Char.toLower = [Char.ofNat n] := by
    decide +kernel
  have hlt : c.toNat < 128 := by
    have hlower : c.isLower = (decide ('a'.val ≤ c.val) && decide (c.val ≤ 'z'.val)) := rfl
    simp only [isSnakeChar, hlower, Char.isDigit, Bool.or_eq_true, Bool.and_eq_true,
      decide_eq_true_eq, UInt32.le_iff_toNat_le, ge_iff_le] at h
    have hval : c.toNat = c.val.toNat := rfl
    have hz : 'z'.val.toNat = 122 := rfl
    have hnine : '9'.val.toNat = 57 := rfl
    omega
  simpa using hascii c.toNat hlt (by simpa using h)

/-- A word in snake case is read off from its capitals by `asciiLower`. -/
theorem asciiLower_capitalized (h : word.all isSnakeChar = true) :
    Text.asciiLower (capitalized word) = word := by
  rw [Text.asciiLower, capitalized, List.map_flatMap]
  induction word with
  | nil => rfl
  | cons c word ih =>
    obtain ⟨hc, hword⟩ := Bool.and_eq_true_iff.1 h
    rw [List.flatMap_cons, ih hword, (spec_of_isSnakeChar hc).2.2]
    rfl

/-- A word in snake case is one word. -/
theorem words_of_isSnakeChar (hne : word ≠ []) (h : word.all isSnakeChar = true) :
    words word = [word] := by
  have hspec := fun c hc => spec_of_isSnakeChar (List.all_eq_true.1 h c hc)
  have halphanumeric : ∀ c ∈ word, isAlphanumeric c = true := fun c hc => (hspec c hc).1
  have hsmall : ∀ c ∈ word, isCapital c = false := fun c hc => (hspec c hc).2.1
  rw [words, runs_of_forall halphanumeric, List.flatMap_singleton, List.nil_append]
  exact splitCase_of_small (by simp) (by simpa using hne) hsmall

/-- Words in snake case, joined by underscores, are the words of the name. -/
theorem words_joined {ws : List Text} (hne : ws ≠ [])
    (h : ∀ w ∈ ws, w ≠ [] ∧ w.all isSnakeChar = true) : words (joined ['_'] ws) = ws := by
  induction ws with
  | nil => exact absurd rfl hne
  | cons w rest ih =>
    obtain ⟨hw, hrest⟩ := List.forall_mem_cons.1 h
    cases rest with
    | nil => exact words_of_isSnakeChar hw.1 hw.2
    | cons v rest =>
      rw [Text.joined_cons_cons, List.append_assoc, List.singleton_append,
        words_append_cons not_isAlphanumeric_underscore, words_of_isSnakeChar hw.1 hw.2,
        ih (by simp) hrest]
      rfl

theorem words_of_isSnakeCase (h : IsSnakeCase name) : words name = name.splitOn '_' := by
  have hname : joined ['_'] (name.splitOn '_') = name := by
    rw [Text.joined_eq_intercalate, List.intercalate_splitOn]
  conv_lhs => rw [← hname]
  exact words_joined (List.splitOn_ne_nil _ _) h

/-- A name in snake case is read off from its `capitalWords`. -/
theorem joined_asciiLower_capitalWords (h : IsSnakeCase name) :
    joined ['_'] ((capitalWords name).map Text.asciiLower) = name := by
  have hback : (name.splitOn '_').map (Text.asciiLower ∘ capitalized) = name.splitOn '_' := by
    refine (List.map_congr_left fun w hw => ?_).trans (List.map_id _)
    exact asciiLower_capitalized (h w hw).2
  rw [capitalWords, List.map_map, words_of_isSnakeCase h, hback, Text.joined_eq_intercalate,
    List.intercalate_splitOn]

end ConstantName

/-! ### Constants of a declaration -/

namespace Declaration

open FieldDeclaration (names)
open ConstantName (capitalWords ofField IsSnakeCase)

variable {d : Declaration} {m : Mapping}

theorem constants_of_accept (h : d.accept = .ok m) :
    m.constants.map Prod.fst = d.fields.map fun f => ofField f.ident.name := by
  rw [Mapping.constants, (mapping_of_accept (shape_of_accept h) h).2.1, names, List.map_map,
    List.map_map]
  rfl

/-- **When constants are distinct.** The constants of an accepted declaration are distinct exactly
if no two fields have the same words in capitals. Fields with distinct names in snake case have
distinct constants. A field shares its constant with one whose name has an underscore in front
besides, and the declaration is accepted all the same. -/
theorem distinct_constants (haccept : d.accept = .ok m) :
    let constants := m.constants.map Prod.fst
    (constants.Nodup ↔ (d.fields.map fun f => capitalWords f.ident.name).Nodup) ∧
    ((names d.fields).Nodup → (∀ f ∈ d.fields, IsSnakeCase f.ident.name) → constants.Nodup) ∧
    ∀ f ∈ d.fields, ∀ g ∈ d.fields, f.ident.name = '_' :: g.ident.name → ¬ constants.Nodup := by
  intro constants
  have hconstants : constants = d.fields.map fun f => ofField f.ident.name :=
    constants_of_accept haccept
  have hiff : constants.Nodup ↔ (d.fields.map fun f => capitalWords f.ident.name).Nodup := by
    simp only [hconstants, List.Nodup, List.pairwise_map, ne_eq,
      ConstantName.ofField_eq_ofField_iff]
  refine ⟨hiff, fun hdistinct hsnake => ?_, fun f hf g hg hname hnodup => ?_⟩
  · -- in snake case the words give the name back
    have hwords : ((names d.fields).map capitalWords).Nodup := by
      refine hdistinct.map_on fun a ha b hb hsame => ?_
      obtain ⟨f, hf, rfl⟩ := List.mem_map.1 ha
      obtain ⟨g, hg, rfl⟩ := List.mem_map.1 hb
      rw [← ConstantName.joined_asciiLower_capitalWords (hsnake f hf), hsame,
        ConstantName.joined_asciiLower_capitalWords (hsnake g hg)]
    rw [names, List.map_map] at hwords
    exact hiff.2 hwords
  · -- distinct constants would make the two fields one, with a name longer than itself
    rw [hconstants] at hnodup
    have hshared : ofField f.ident.name = ofField g.ident.name := by
      rw [hname, ConstantName.ofField_underscore_cons]
    have hsame : f = g := List.inj_on_of_nodup_map hnodup hf hg hshared
    rw [hsame] at hname
    exact List.cons_ne_self _ _ hname.symm

/-- The fields of a user in snake case have distinct constants; a field and its shadow with an
underscore in front have not. -/
theorem distinct_constants_user :
    let field := fun name : String =>
      (⟨⟨false, name.toList⟩, .path [] (.mk ⟨false, "i64".toList⟩ []), []⟩ : FieldDeclaration)
    let user : Declaration :=
      ⟨⟨false, "User".toList⟩, [], [], .named [field "user_id", field "age", field "login2"]⟩
    let shadow : Declaration :=
      ⟨⟨false, "Shadow".toList⟩, [], [], .named [field "id", field "_id"]⟩
    (∃ m, user.accept = .ok m ∧ (m.constants.map Prod.fst).Nodup) ∧
      ∃ m, shadow.accept = .ok m ∧ ¬ (m.constants.map Prod.fst).Nodup := by
  intro field user shadow
  have huser : user.accept = .ok ⟨"User".toList, [⟨false, "user_id".toList⟩, ⟨false, "age".toList⟩,
      ⟨false, "login2".toList⟩], none, []⟩ := by decide
  have hshadow : shadow.accept = .ok ⟨"Shadow".toList, [⟨false, "id".toList⟩,
      ⟨false, "_id".toList⟩], none, []⟩ := by decide
  obtain ⟨-, hsnake, -⟩ := distinct_constants huser
  obtain ⟨-, -, hunderscore⟩ := distinct_constants hshadow
  refine ⟨⟨_, huser, hsnake (by decide) (by decide +kernel)⟩, ⟨_, hshadow, ?_⟩⟩
  exact hunderscore (field "_id") (by simp [shadow, fields]) (field "id") (by simp [shadow, fields])
    rfl

/-- A session whose declaration is accepted although the constants of its two fields are one: both
names have the words `user` and `id`. -/
theorem shared_constant_session :
    let field := fun name : String =>
      (⟨⟨false, name.toList⟩, .path [] (.mk ⟨false, "i64".toList⟩ []), []⟩ : FieldDeclaration)
    let d : Declaration :=
      ⟨⟨false, "Session".toList⟩, [], [], .named [field "user_id", field "userId"]⟩
    let m : Mapping := ⟨"Session".toList, [⟨false, "user_id".toList⟩, ⟨false, "userId".toList⟩],
      none, []⟩
    (names d.fields).Nodup ∧ d.accept = .ok m ∧
      m.constants = [("COL_USER_ID".toList, "user_id".toList),
        ("COL_USER_ID".toList, "userId".toList)] ∧
      ¬ (m.constants.map Prod.fst).Nodup := by
  exact ⟨by decide, by decide, by decide +kernel, by decide +kernel⟩

end Declaration

end RecordSql
