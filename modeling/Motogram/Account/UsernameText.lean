import Motogram.Account.Registration

/-!
# The text of a username

`UsernameSchema` accepts letters, digits, underscores and full stops, between three and thirty of
them. Trimming such a text does nothing, and lower-casing it goes letter by letter, so what is
stored of it is accepted again and is its own normal form (`Proper.of_schema`).

A candidate made of an address is proper whatever the address (`candidate_proper`): the letters
are replaced, and with the random suffix it is between nine and twenty-seven letters long. It is reserved exactly when
the base it is made of begins with `motogram` (`reserved_candidate_iff`); no other reserved name
has an underscore six letters before its end.
-/

set_option autoImplicit false

namespace Motogram.Account

open Foundation List

/-! ## The schema -/

/-- The letters of `/^[a-zA-Z0-9_.]+$/`. -/
def usernameChar (letter : Char) : Bool :=
  letter.isAlphanum || decide (letter = '_') || decide (letter = '.')

/-- `UsernameSchema`. -/
def usernameSchema (text : String) : Bool :=
  decide (3 ≤ text.toList.length) && decide (text.toList.length ≤ 30) && text.toList.all usernameChar

/-- A username that a request can have. -/
abbrev Username := { text : String // usernameSchema text = true }

theorem usernameSchema_iff {text : String} :
    usernameSchema text = true ↔ 3 ≤ text.toList.length ∧ text.toList.length ≤ 30 ∧
      ∀ letter ∈ text.toList, usernameChar letter = true := by
  rw [usernameSchema, Bool.and_eq_true, Bool.and_eq_true, decide_eq_true_eq, decide_eq_true_eq,
    all_eq_true, and_assoc]

/-! ## What is assumed of the platform -/

def LowersAscii (toLowerCase : String → String) : Prop :=
  ∀ text : String, (∀ letter ∈ text.toList, letter.toNat < 128) →
    (toLowerCase text).toList = text.toList.map Char.toLower

/-- ASCII texts are lower-cased letter by letter, and the database compares exactly what is
lower-cased. -/
structure LowerCases (deployment : Auth.Deployment) : Prop where
  lowers : LowersAscii deployment.toLowerCase
  exact : ∀ first second, deployment.equalsInsensitive first second = true ↔
    deployment.toLowerCase first = deployment.toLowerCase second

/-- The engine lower-cases letter by letter, and the database compares what is lower-cased. -/
def letterwiseDeployment : Auth.Deployment :=
  { Auth.smallDeployment with
    toLowerCase := fun text => String.ofList (text.toList.map Char.toLower)
    equalsInsensitive := fun first second => decide (first.toList.map Char.toLower = second.toList.map Char.toLower) }

theorem lowers_letterwise : LowersAscii letterwiseDeployment.toLowerCase :=
  fun _ _ => String.toList_ofList

/-- A digit of `toString('hex')`. -/
def hexDigit (letter : Char) : Bool :=
  letter.isDigit || decide (letter ∈ ['a', 'b', 'c', 'd', 'e', 'f'])

/-- Three bytes, as `toString('hex')` writes them. -/
def HexSuffix (suffix : String) : Prop :=
  suffix.toList.length = 6 ∧ ∀ letter ∈ suffix.toList, hexDigit letter = true

/-- Three random bytes are written in six hexadecimal digits. -/
def DrawsHex (installation : Deployment) : Prop := ∀ draw, HexSuffix (installation.randomHex draw)

/-! ## Letters -/

/-- A letter of what is stored: lower-case letters, digits, underscores and full stops. -/
def storedLetter (letter : Char) : Bool :=
  letter.isLower || letter.isDigit || decide (letter = '_') || decide (letter = '.')

theorem ascii_cases (property : Char → Prop) (each : ∀ code < 128, property (Char.ofNat code))
    {letter : Char} (ascii : letter.toNat < 128) : property letter := by
  have holds := each letter.toNat ascii
  rwa [Char.ofNat_toNat] at holds

variable {letter : Char}

theorem toNat_lt_of_usernameChar (valid : usernameChar letter = true) : letter.toNat < 128 := by
  delta usernameChar Char.isAlphanum Char.isAlpha Char.isUpper Char.isLower Char.isDigit at valid
  simp only [Bool.or_eq_true, Bool.and_eq_true, decide_eq_true_eq, ge_iff_le, UInt32.le_iff_toNat_le] at valid
  have small : letter.val.toNat < 128 := by
    rcases valid with ((((⟨-, upper⟩ | ⟨-, lower⟩) | ⟨-, digit⟩) | rfl) | rfl)
    · exact lt_of_le_of_lt upper (by decide)
    · exact lt_of_le_of_lt lower (by decide)
    · exact lt_of_le_of_lt digit (by decide)
    · decide
    · decide
  exact small

theorem storedLetter_toLower (valid : usernameChar letter = true) : storedLetter letter.toLower = true := by
  have each : ∀ code < 128, usernameChar (Char.ofNat code) = true →
      storedLetter (Char.ofNat code).toLower = true := by decide +kernel
  exact ascii_cases (fun letter => usernameChar letter = true → storedLetter letter.toLower = true) each
    (toNat_lt_of_usernameChar valid) valid

theorem usernameChar_of_stored (stored : storedLetter letter = true) : usernameChar letter = true := by
  simp only [storedLetter, Bool.or_eq_true] at stored
  delta usernameChar Char.isAlphanum Char.isAlpha
  simp only [Bool.or_eq_true]
  tauto

theorem toLower_of_stored (stored : storedLetter letter = true) : letter.toLower = letter := by
  have each : ∀ code < 128, storedLetter (Char.ofNat code) = true →
      (Char.ofNat code).toLower = Char.ofNat code := by decide +kernel
  exact ascii_cases (fun letter => storedLetter letter = true → letter.toLower = letter) each
    (toNat_lt_of_usernameChar (usernameChar_of_stored stored)) stored

theorem not_space_of_usernameChar (valid : usernameChar letter = true) : isJsSpace letter = false := by
  have each : ∀ code < 128, usernameChar (Char.ofNat code) = true → isJsSpace (Char.ofNat code) = false := by
    decide +kernel
  exact ascii_cases (fun letter => usernameChar letter = true → isJsSpace letter = false) each
    (toNat_lt_of_usernameChar valid) valid

theorem storedLetter_of_hexDigit (hex : hexDigit letter = true) : storedLetter letter = true := by
  simp only [hexDigit, Bool.or_eq_true, decide_eq_true_eq, mem_cons, not_mem_nil, or_false] at hex
  rcases hex with digit | rfl | rfl | rfl | rfl | rfl | rfl
  · simp [storedLetter, digit]
  all_goals decide

theorem storedLetter_usernameLetter (letter : Char) : storedLetter (usernameLetter letter) = true := by
  rw [usernameLetter]
  split
  · assumption
  · decide

/-! ## Normal forms -/

theorem jsTrim_of_no_space {text : String} (none : ∀ letter ∈ text.toList, isJsSpace letter = false) :
    jsTrim text = text := by
  have kept : ∀ letters : List Char, (∀ letter ∈ letters, isJsSpace letter = false) →
      letters.dropWhile isJsSpace = letters := by
    intro letters free
    cases letters with
    | nil => rfl
    | cons first rest => rw [dropWhile_cons_of_neg (by simp [free first (mem_cons_self ..)])]
  have reversed : ∀ letter ∈ text.toList.reverse, isJsSpace letter = false :=
    fun letter member => none letter (mem_reverse.mp member)
  rw [jsTrim, kept _ none, kept _ reversed, reverse_reverse, String.ofList_toList]

/-- A username as it is to be stored: its own normal form, and accepted by the schema. -/
structure Proper (deployment : Auth.Deployment) (username : String) : Prop where
  normal : Auth.normalize deployment username = username
  schema : usernameSchema username = true

section Texts

variable {deployment : Auth.Deployment}

theorem normalize_toList (lowers : LowersAscii deployment.toLowerCase) {text : String}
    (valid : ∀ letter ∈ text.toList, usernameChar letter = true) :
    (Auth.normalize deployment text).toList = text.toList.map Char.toLower := by
  rw [Auth.normalize, jsTrim_of_no_space fun letter member => not_space_of_usernameChar (valid letter member)]
  exact lowers text fun letter member => toNat_lt_of_usernameChar (valid letter member)

theorem proper_of_stored (lowers : LowersAscii deployment.toLowerCase) {text : String}
    (letters : ∀ letter ∈ text.toList, storedLetter letter = true) (least : 3 ≤ text.toList.length)
    (most : text.toList.length ≤ 30) : Proper deployment text := by
  have valid : ∀ letter ∈ text.toList, usernameChar letter = true :=
    fun letter member => usernameChar_of_stored (letters letter member)
  refine ⟨String.toList_injective ?_, usernameSchema_iff.mpr ⟨least, most, valid⟩⟩
  rw [normalize_toList lowers valid]
  calc text.toList.map Char.toLower = text.toList.map id :=
        map_congr_left fun letter member => toLower_of_stored (letters letter member)
    _ = text.toList := map_id _

theorem Proper.of_schema (lowerCases : LowerCases deployment) {text : String}
    (accepted : usernameSchema text = true) : Proper deployment (Auth.normalize deployment text) := by
  obtain ⟨least, most, valid⟩ := usernameSchema_iff.mp accepted
  have letters := normalize_toList lowerCases.lowers valid
  refine proper_of_stored lowerCases.lowers ?_ ?_ ?_
  · rw [letters]
    intro letter member
    obtain ⟨letter', written, rfl⟩ := mem_map.mp member
    exact storedLetter_toLower (valid letter' written)
  · rwa [letters, length_map]
  · rwa [letters, length_map]

theorem Proper.eq_of_insensitive (lowerCases : LowerCases deployment) {first second : String}
    (proper : Proper deployment first) (proper' : Proper deployment second)
    (same : deployment.equalsInsensitive first second = true) : first = second := by
  have folded : ∀ {text : String}, Proper deployment text → deployment.toLowerCase text = text := by
    intro text kept
    have trimmed : jsTrim text = text := jsTrim_of_no_space fun letter member =>
      not_space_of_usernameChar ((usernameSchema_iff.mp kept.schema).2.2 letter member)
    have normal := kept.normal
    rwa [Auth.normalize, trimmed] at normal
  rw [← folded proper, ← folded proper']
  exact (lowerCases.exact first second).mp same

end Texts

/-! ## Candidates -/

theorem mem_collapseUnderscores {letters : List Char} (member : letter ∈ collapseUnderscores letters) :
    letter ∈ letters := by
  fun_induction collapseUnderscores letters with
  | case1 => cases member
  | case2 => exact member
  | case3 first next rest both ih => exact mem_cons_of_mem _ (ih member)
  | case4 first next rest other ih =>
    rcases mem_cons.mp member with rfl | later
    · exact mem_cons_self ..
    · exact mem_cons_of_mem _ (ih later)

theorem mem_stripUnderscores {letters : List Char} (member : letter ∈ stripUnderscores letters) :
    letter ∈ letters := by
  have rest : letter ∈ (if letters.head? = some '_' then letters.tail else letters) := by
    rw [stripUnderscores] at member
    by_cases last : (if letters.head? = some '_' then letters.tail else letters).getLast? = some '_'
    · rw [if_pos last] at member
      exact dropLast_subset _ member
    · rwa [if_neg last] at member
  split at rest
  · exact mem_of_mem_tail rest
  · exact rest

/-- `base` of `usernameCandidateFromEmail`. -/
def candidateBase (deployment : Auth.Deployment) (email : String) : List Char :=
  (stripUnderscores (collapseUnderscores ((deployment.toLowerCase (String.ofList
    (email.toList.takeWhile fun letter => decide (letter ≠ '@')))).toList.map usernameLetter))).take 20

/-- `prefix` of `usernameCandidateFromEmail`. -/
def candidatePrefix (deployment : Auth.Deployment) (email : String) : List Char :=
  (if (candidateBase deployment email).length ≥ 3 then candidateBase deployment email
    else 'u' :: '_' :: candidateBase deployment email).take 20

section Candidates

variable {deployment : Auth.Deployment} {suffix : String}

theorem candidateBase_length (deployment : Auth.Deployment) (email : String) :
    (candidateBase deployment email).length ≤ 20 := length_take_le ..

theorem candidateBase_letters (deployment : Auth.Deployment) (email : String) :
    ∀ letter ∈ candidateBase deployment email, storedLetter letter = true := by
  intro letter member
  have mapped := mem_collapseUnderscores (mem_stripUnderscores (mem_of_mem_take member))
  obtain ⟨letter', -, rfl⟩ := mem_map.mp mapped
  exact storedLetter_usernameLetter letter'

/-- The prefix is the base, or the base behind `u_`, and at least two letters long. -/
theorem candidatePrefix_cases (deployment : Auth.Deployment) (email : String) :
    candidatePrefix deployment email = candidateBase deployment email ∧
        3 ≤ (candidateBase deployment email).length ∨
      candidatePrefix deployment email = 'u' :: '_' :: candidateBase deployment email ∧
        (candidateBase deployment email).length < 3 := by
  have bound := candidateBase_length deployment email
  by_cases long : (candidateBase deployment email).length ≥ 3
  · rw [candidatePrefix, if_pos long, take_of_length_le bound]
    exact .inl ⟨rfl, long⟩
  · rw [candidatePrefix, if_neg long, take_of_length_le (by simp only [length_cons]; omega)]
    exact .inr ⟨rfl, not_le.mp long⟩

theorem candidatePrefix_length (deployment : Auth.Deployment) (email : String) :
    2 ≤ (candidatePrefix deployment email).length ∧ (candidatePrefix deployment email).length ≤ 20 := by
  have bound := candidateBase_length deployment email
  obtain ⟨same, long⟩ | ⟨same, few⟩ := candidatePrefix_cases deployment email
  · rw [same]
    omega
  · rw [same, length_cons, length_cons]
    omega

variable (deployment) in
/-- The letters of a candidate: nothing of it is cut off. -/
theorem candidate_toList (hex : HexSuffix suffix) (email : String) :
    (usernameCandidateFromEmail deployment email suffix).toList =
      candidatePrefix deployment email ++ '_' :: suffix.toList := by
  have bound := candidatePrefix_length deployment email
  have short : (candidatePrefix deployment email ++ '_' :: suffix.toList).length ≤ 30 := by
    rw [length_append, length_cons, hex.1]
    omega
  exact String.toList_ofList.trans (take_of_length_le short)

variable (deployment) in
theorem candidate_length (hex : HexSuffix suffix) (email : String) :
    9 ≤ (usernameCandidateFromEmail deployment email suffix).toList.length ∧
      (usernameCandidateFromEmail deployment email suffix).toList.length ≤ 27 := by
  have bound := candidatePrefix_length deployment email
  rw [candidate_toList deployment hex email, length_append, length_cons, hex.1]
  omega

/-- **A candidate is proper**, whatever the address. -/
theorem candidate_proper (lowers : LowersAscii deployment.toLowerCase) (hex : HexSuffix suffix)
    (email : String) : Proper deployment (usernameCandidateFromEmail deployment email suffix) := by
  have length := candidate_length deployment hex email
  have base := candidateBase_letters deployment email
  refine proper_of_stored lowers ?_ (by omega) (by omega)
  rw [candidate_toList deployment hex email]
  intro letter member
  rcases mem_append.mp member with front | back
  · obtain ⟨same, -⟩ | ⟨same, -⟩ := candidatePrefix_cases deployment email
    · rw [same] at front
      exact base letter front
    · rw [same] at front
      rcases mem_cons.mp front with rfl | later
      · decide
      · rcases mem_cons.mp later with rfl | inside
        · decide
        · exact base letter inside
  · rcases mem_cons.mp back with rfl | digit
    · decide
    · exact storedLetter_of_hexDigit (hex.2 letter digit)

/-- **What `usernameCandidateFromEmail` yields** of any address: the schema accepts it, it is its own
normal form, at most 27 letters long, and ends with an underscore and the whole suffix. -/
theorem usernameCandidateFromEmail_stored (lowers : LowersAscii deployment.toLowerCase)
    (hex : HexSuffix suffix) (email : String) :
    usernameSchema (usernameCandidateFromEmail deployment email suffix) = true ∧
      (usernameCandidateFromEmail deployment email suffix).toList.length ≤ 27 ∧
      '_' :: suffix.toList <:+ (usernameCandidateFromEmail deployment email suffix).toList ∧
      Auth.normalize deployment (usernameCandidateFromEmail deployment email suffix) =
        usernameCandidateFromEmail deployment email suffix := by
  have proper := candidate_proper lowers hex email
  have length := candidate_length deployment hex email
  refine ⟨proper.schema, length.2, ?_, proper.normal⟩
  rw [candidate_toList deployment hex email]
  exact List.suffix_append ..

theorem usernameCandidateFromEmail_stored_small :
    '_' :: "0a1b2c".toList <:+ (usernameCandidateFromEmail letterwiseDeployment "A@motogram.app" "0a1b2c").toList ∧
      Auth.normalize letterwiseDeployment "u_a_0a1b2c" = "u_a_0a1b2c" := by
  have letters : usernameCandidateFromEmail letterwiseDeployment "A@motogram.app" "0a1b2c" = "u_a_0a1b2c" := by
    decide +kernel
  have hex : HexSuffix "0a1b2c" := ⟨by decide, List.all_eq_true.mp (by decide)⟩
  obtain ⟨-, -, ends, normal⟩ := usernameCandidateFromEmail_stored lowers_letterwise hex "A@motogram.app"
  rw [letters] at normal
  exact ⟨ends, normal⟩

/-- A text without underscores begins a text exactly when it begins the part before an underscore. -/
theorem prefix_before_underscore {start front back : List Char} (free : '_' ∉ start) :
    start <+: front ++ '_' :: back ↔ start <+: front := by
  constructor
  · intro begins
    obtain short | long := prefix_or_prefix_of_prefix begins (prefix_append front ('_' :: back))
    · exact short
    · obtain ⟨rest, rfl⟩ := long
      cases rest with
      | nil => exact ⟨[], by simp⟩
      | cons first rest =>
        have next := (prefix_append_right_inj front).mp begins
        obtain ⟨rfl, -⟩ := cons_prefix_cons.mp next
        exact absurd (mem_append_right front (mem_cons_self ..)) free
  · intro begins
    exact begins.trans (prefix_append front ('_' :: back))

/-- The base of an address is one for `motogram`. -/
def officialBase (deployment : Auth.Deployment) (email : String) : Bool :=
  "motogram".toList.isPrefixOf (candidateBase deployment email)

/-- **A candidate is reserved exactly when its base begins with `motogram`.** -/
theorem reserved_candidate_iff (lowerCases : LowerCases deployment) (hex : HexSuffix suffix) (email : String) :
    isReservedUsername deployment (usernameCandidateFromEmail deployment email suffix) =
      officialBase deployment email := by
  have letters := candidate_toList deployment hex email
  have proper := candidate_proper lowerCases.lowers hex email
  -- Six letters before the end of a candidate there is an underscore, and in no reserved name.
  have elsewhere : ∀ name ∈ reservedUsernamesLower, name.toList.reverse[6]? ≠ some '_' := by decide +kernel
  have unlisted : usernameCandidateFromEmail deployment email suffix ∉ reservedUsernamesLower := by
    intro member
    refine elsewhere _ member ?_
    rw [letters, reverse_append, reverse_cons, append_assoc,
      getElem?_append_right (by rw [length_reverse, hex.1]), length_reverse, hex.1]
    rfl
  have some' : usernameCandidateFromEmail deployment email suffix ≠ "" := by
    intro empty
    rw [empty] at letters
    have length := congrArg length letters
    simp only [String.toList_empty, length_nil, length_append, length_cons] at length
    omega
  rw [isReservedUsername, proper.normal, decide_eq_false some', decide_eq_false unlisted, Bool.false_or,
    Bool.false_or, officialBase, Bool.eq_iff_iff, isPrefixOf_iff_prefix, isPrefixOf_iff_prefix,
    letters, prefix_before_underscore (by decide)]
  obtain ⟨same, -⟩ | ⟨same, few⟩ := candidatePrefix_cases deployment email
  · rw [same]
  · rw [same]
    constructor
    · intro begins
      have first := (cons_prefix_cons.mp begins).1
      exact absurd first (by decide)
    · intro begins
      have longer := begins.length_le
      rw [show "motogram".toList.length = 8 from rfl] at longer
      omega

end Candidates

end Motogram.Account
