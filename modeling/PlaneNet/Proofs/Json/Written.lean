import PlaneNet.Json.Codec
import PlaneNet.Layout
import PlaneNet.Proofs.Digits
import PlaneNet.Proofs.Topology

set_option autoImplicit false

namespace PlaneNet

namespace Decimal

-- Only zero is written with a zero in front.
theorem head?_toDigits {n : Nat} (positive : 0 < n) : (Nat.toDigits 10 n).head? ≠ some '0' := by
  induction n using Nat.strong_induction_on with
  | h n ih =>
    rw [Nat.toDigits_eq_if (by decide)]
    split
    next small =>
      interval_cases n <;> decide
    next big =>
      have shorter := ih (n / 10) (by omega) (by omega)
      obtain ⟨c, rest, digits⟩ := List.exists_cons_of_ne_nil (Nat.toDigits_ne_nil (n := n / 10) (b := 10))
      rw [digits] at shorter ⊢
      exact shorter

end Decimal

namespace Json

def ofNat (n : Nat) : Json := .number true (.finite false n 0)

theorem natBelow?_ofNat {limit n : Nat} : natBelow? limit (ofNat n) = if n < limit then some n else none := rfl

theorem lt_of_natBelow? {limit n : Nat} {j : Json} (read : natBelow? limit j = some n) : n < limit := by
  unfold natBelow? at read
  split at read
  · split at read
    next below =>
      cases read
      exact below
    next => cases read
  · cases read

theorem mapM_natBelow?_ofNat {limit : Nat} {ns : List Nat} (below : ∀ n ∈ ns, n < limit) :
    (ns.map ofNat).mapM (natBelow? limit) = some ns := by
  induction ns with
  | nil => rfl
  | cons n ns ih =>
    obtain ⟨first, others⟩ := List.forall_mem_cons.mp below
    rw [List.map_cons, List.mapM_cons, natBelow?_ofNat, if_pos first, ih others]
    rfl

theorem forall_lt_of_mapM_natBelow? {limit : Nat} {js : List Json} {ns : List Nat}
    (read : js.mapM (natBelow? limit) = some ns) : ∀ n ∈ ns, n < limit := by
  induction js generalizing ns with
  | nil =>
    cases read
    exact List.forall_mem_nil _
  | cons j js ih =>
    simp only [List.mapM_cons, Option.bind_eq_bind, Option.bind_eq_some_iff] at read
    obtain ⟨n, first, others, read, done⟩ := read
    cases done
    exact List.forall_mem_cons.mpr ⟨lt_of_natBelow? first, ih read⟩

section Numbers

variable (n : Nat) {c : Char} (tail : List Char)

theorem digits_toDigits (follows : Decimal.isDigit c = false) :
    digits (Nat.toDigits 10 n ++ c :: tail) = (Nat.toDigits 10 n, c :: tail) := by
  have all := List.all_eq_true.mp (Decimal.all_isDigit_toDigits n)
  rw [digits, List.takeWhile_append_of_pos all, List.dropWhile_append_of_pos all]
  simp [follows]

-- In a list a number is followed by a comma or by the closing bracket.
theorem unsigned?_toDigits (follows : c = ',' ∨ c = ']') :
    unsigned? false (Nat.toDigits 10 n ++ c :: tail) = some (ofNat n, c :: tail) := by
  have noDigit : Decimal.isDigit c = false := by rcases follows with rfl | rfl <;> rfl
  have fraction : fraction? (c :: tail) = some ([], c :: tail) := by rcases follows with rfl | rfl <;> rfl
  have exponent : exponent? (c :: tail) = some (none, c :: tail) := by rcases follows with rfl | rfl <;> rfl
  have filled : (Nat.toDigits 10 n).isEmpty = false := List.isEmpty_eq_false_iff.mpr Nat.toDigits_ne_nil
  have noZero : ((Nat.toDigits 10 n).head? = some '0' && decide (1 < (Nat.toDigits 10 n).length)) = false := by
    rcases Nat.eq_zero_or_pos n with rfl | positive
    · rfl
    · simp [Decimal.head?_toDigits positive]
  simp only [unsigned?, digits_toDigits n tail noDigit, filled, noZero, Bool.or_self, Bool.false_eq_true, if_false,
    fraction, exponent, Option.bind_eq_bind, Option.bind_some, List.append_nil, Decimal.value_toDigits]
  rfl

theorem value?_toDigits (fuel : Nat) (follows : c = ',' ∨ c = ']') :
    value? (fuel + 1) (Nat.toDigits 10 n ++ c :: tail) = some (ofNat n, c :: tail) := by
  have read := unsigned?_toDigits n tail follows
  obtain ⟨first, rest, written⟩ := List.exists_cons_of_ne_nil (Nat.toDigits_ne_nil (n := n) (b := 10))
  obtain ⟨d, small, rfl⟩ := exists_digit_of_mem_toDigits (by decide) n (written ▸ List.mem_cons_self)
  rw [written] at read ⊢
  interval_cases d <;> exact read

end Numbers

section Documents

variable {fuel : Nat} {name rest more tail : List Char} {j : Json} {members : List (Option String × Json)}

theorem items?_last (item : value? fuel rest = some (j, ']' :: tail)) :
    items? (fuel + 1) rest = some ([j], tail) := by
  rw [items?, item]
  rfl

theorem items?_cons {js : List Json} (item : value? fuel rest = some (j, ',' :: more))
    (others : items? fuel more = some (js, tail)) : items? (fuel + 1) rest = some (j :: js, tail) := by
  simp only [items?, item, Option.bind_eq_bind, Option.bind_some]
  exact congrArg (Option.bind · _) others

theorem items?_written (sizes : List Nat) (n : Nat) (tail : List Char) (enough : sizes.length + 1 < fuel) :
    items? fuel ([','].intercalate ((n :: sizes).map (Nat.toDigits 10)) ++ ']' :: tail) =
      some ((n :: sizes).map ofNat, tail) := by
  obtain ⟨fuel, rfl⟩ : ∃ less, fuel = less + 2 := ⟨fuel - 2, by omega⟩
  induction sizes generalizing n fuel with
  | nil =>
    rw [List.map_singleton, List.intercalate_singleton]
    exact items?_last (value?_toDigits n tail fuel (.inr rfl))
  | cons next sizes ih =>
    obtain ⟨fuel, rfl⟩ : ∃ less, fuel = less + 1 := ⟨fuel - 1, by simp only [List.length_cons] at enough; omega⟩
    have others := ih next fuel (by simp only [List.length_cons] at enough; omega)
    simp only [List.map_cons, List.intercalate_cons_cons, List.append_assoc, List.singleton_append] at others ⊢
    exact items?_cons (value?_toDigits n _ (fuel + 1) (.inl rfl)) others

def Plain (c : Char) : Prop := c ≠ '"' ∧ c ≠ '\\' ∧ 0x20 ≤ c.toNat

theorem pieces_plain (plain : ∀ c ∈ name, Plain c) (enough : name.length < fuel) :
    pieces fuel (name ++ '"' :: tail) = some (name.map .char, tail) := by
  induction name generalizing fuel with
  | nil =>
    obtain ⟨fuel, rfl⟩ : ∃ less, fuel = less + 1 := ⟨fuel - 1, by omega⟩
    rfl
  | cons c name ih =>
    obtain ⟨fuel, rfl⟩ : ∃ less, fuel = less + 1 := ⟨fuel - 1, by simp only [List.length_cons] at enough; omega⟩
    obtain ⟨⟨noQuote, noEscape, noControl⟩, others⟩ := List.forall_mem_cons.mp plain
    have later := ih others (Nat.lt_of_succ_lt_succ enough)
    rw [List.cons_append, pieces]
    · simp only [if_neg (Nat.not_lt.mpr noControl), later, Option.bind_eq_bind, Option.bind_some]
      rfl
    · exact fun same => absurd same noQuote
    · exact fun same => absurd same noEscape

theorem joinPieces_map_char (cs : List Char) : joinPieces (cs.map .char) = some cs := by
  induction cs with
  | nil => rfl
  | cons c cs ih => rw [List.map_cons, joinPieces, ih]; rfl

theorem text?_plain (plain : ∀ c ∈ name, Plain c) (tail : List Char) :
    text? (name ++ '"' :: tail) = some (some (String.ofList name), tail) := by
  have enough : name.length < (name ++ '"' :: tail).length + 1 := by
    rw [List.length_append]
    omega
  simp only [text?, pieces_plain plain enough, Option.bind_eq_bind, Option.bind_some, joinPieces_map_char]
  rfl

theorem length_le_intercalate (sizes : List Nat) :
    sizes.length ≤ ([','].intercalate (sizes.map (Nat.toDigits 10))).length := by
  induction sizes with
  | nil => exact Nat.zero_le _
  | cons n sizes ih =>
    have filled : 0 < (Nat.toDigits 10 n).length := Nat.length_toDigits_pos
    cases sizes with
    | nil =>
      rw [List.map_singleton, List.intercalate_singleton]
      exact filled
    | cons next sizes =>
      simp only [List.map_cons, List.intercalate_cons_cons, List.length_append, List.length_cons, List.length_nil] at ih ⊢
      omega

theorem skipSpace_cons {c : Char} (solid : isSpace c = false) (rest : List Char) : skipSpace (c :: rest) = c :: rest :=
  List.dropWhile_cons_of_neg (Bool.eq_false_iff.mp solid)

theorem members?_last (plain : ∀ c ∈ name, Plain c) (value : value? fuel rest = some (j, '\x7d' :: tail)) :
    members? (fuel + 1) ('"' :: (name ++ '"' :: ':' :: rest)) = some ([(some (String.ofList name), j)], tail) := by
  simp only [members?, skipSpace_cons (c := '"') rfl, text?_plain plain, skipSpace_cons (c := ':') rfl, value,
    Option.bind_eq_bind, Option.bind_some]
  rfl

theorem members?_cons (plain : ∀ c ∈ name, Plain c) (value : value? fuel rest = some (j, ',' :: more))
    (others : members? fuel more = some (members, tail)) :
    members? (fuel + 1) ('"' :: (name ++ '"' :: ':' :: rest)) =
      some ((some (String.ofList name), j) :: members, tail) := by
  simp only [members?, skipSpace_cons (c := '"') rfl, text?_plain plain, skipSpace_cons (c := ':') rfl, value,
    skipSpace_cons (c := ',') rfl, others, Option.bind_eq_bind, Option.bind_some]
  rfl

theorem value?_sizes (sizes : List Nat) (tail : List Char) (enough : sizes.length + 1 < fuel) :
    value? (fuel + 1) ('[' :: ([','].intercalate (sizes.map (Nat.toDigits 10)) ++ ']' :: tail)) =
      some (.array (sizes.map ofNat), tail) := by
  cases sizes with
  | nil => rfl
  | cons n sizes =>
    have items := items?_written sizes n tail (Nat.lt_of_succ_lt enough)
    obtain ⟨first, rest, written⟩ := List.exists_cons_of_ne_nil (Nat.toDigits_ne_nil (n := n) (b := 10))
    obtain ⟨d, small, rfl⟩ := exists_digit_of_mem_toDigits (by decide) n (written ▸ List.mem_cons_self)
    rw [List.map_cons, written, List.intercalate_cons_cons_left, List.cons_append] at items ⊢
    have value (cs : List Char) (read : items? fuel (d.digitChar :: cs) = some ((n :: sizes).map ofNat, tail)) :
        value? (fuel + 1) ('[' :: d.digitChar :: cs) = some (.array ((n :: sizes).map ofNat), tail) := by
      have mapped := congrArg (Option.map fun read : List Json × List Char => (Json.array read.1, read.2)) read
      interval_cases d <;> exact mapped
    exact value _ items

end Documents

end Json

namespace Topology

open Json (ofNat)

theorem toList_toJson (t : Topology) : t.toJson.toList =
    '\x7b' :: '"' :: ("sizes".toList ++ '"' :: ':' :: '[' :: ([','].intercalate (t.sizes.map (Nat.toDigits 10)) ++
      ']' :: ',' :: '"' :: ("rbf".toList ++ '"' :: ':' :: ((toString t.rbf).toList ++ ['\x7d'])))) := by
  obtain ⟨sizes, rbf⟩ := t
  have digits : (sizes.map toString).map String.toList = sizes.map (Nat.toDigits 10) := by
    rw [List.map_map]
    exact List.map_congr_left fun n _ => Nat.toList_repr
  cases rbf <;> simp [toJson, digits] <;> rfl

theorem ofText?_toJson (t : Topology) : Json.ofText? t.toJson =
    some (.object [(some "sizes", .array (t.sizes.map ofNat)), (some "rbf", .bool t.rbf)]) := by
  have chars := t.toList_toJson
  have long := Json.length_le_intercalate t.sizes
  obtain ⟨fuel, length, enough⟩ : ∃ fuel, t.toJson.toList.length = fuel + 4 ∧ t.sizes.length < fuel := by
    refine ⟨t.toJson.toList.length - 4, ?_⟩
    rw [chars]
    simp only [List.length_cons, List.length_append, show "sizes".toList.length = 5 from rfl]
    omega
  have flag : Json.value? (fuel + 2) ((toString t.rbf).toList ++ ['\x7d']) = some (.bool t.rbf, ['\x7d']) := by
    cases t.rbf <;> rfl
  have plain : ∀ c ∈ "sizes".toList, Json.Plain c := by simp [Json.Plain]
  have plain' : ∀ c ∈ "rbf".toList, Json.Plain c := by simp [Json.Plain]
  have second := Json.members?_last plain' flag
  have both := Json.members?_cons plain
    (Json.value?_sizes t.sizes _ (show t.sizes.length + 1 < fuel + 2 by omega)) second
  have whole := congrArg (Option.map fun read : List (Option String × Json) × List Char => (Json.object read.1, read.2)) both
  have value : Json.value? (fuel + 5) t.toJson.toList =
      some (.object [(some "sizes", .array (t.sizes.map ofNat)), (some "rbf", .bool t.rbf)], []) := by
    rw [chars]
    exact whole
  simp only [Json.ofText?, length, value]
  rfl

theorem ofJson?_written (t : Topology) (words : ∀ width ∈ t.sizes, width < Word.limit) :
    ofJson? (.object [(some "sizes", .array (t.sizes.map ofNat)), (some "rbf", .bool t.rbf)]) = some t := by
  have fields : ofFields? (.array (t.sizes.map ofNat)) (.bool t.rbf) = some t := by
    simp only [ofFields?, Json.array?, Json.bool?, Json.mapM_natBelow?_ofNat words, Option.bind_eq_bind, Option.bind_some]
    rfl
  exact fields

theorem lt_of_ofFields? {t : Topology} {sizes rbf : Json} (read : ofFields? sizes rbf = some t) :
    ∀ width ∈ t.sizes, width < Word.limit := by
  simp only [ofFields?, Option.bind_eq_bind, Option.bind_eq_some_iff] at read
  obtain ⟨items, -, widths, read, flag, -, done⟩ := read
  cases done
  exact Json.forall_lt_of_mapM_natBelow? read

theorem lt_of_ofJson? {t : Topology} {j : Json} (read : ofJson? j = some t) : ∀ width ∈ t.sizes, width < Word.limit := by
  unfold ofJson? at read
  split at read
  · exact lt_of_ofFields? read
  · simp only [Option.bind_eq_bind, Option.bind_eq_some_iff] at read
    obtain ⟨_, -, _, -, _, -, _, -, _, -, read⟩ := read
    exact lt_of_ofFields? read
  · cases read

/-- Of all widths or of the hidden ones, as shapes are made anywhere but from a document. -/
def Constructed (t : Topology) : Prop :=
  ∃ widths rbf, ofSizes widths rbf = .ok t ∨ ofHidden widths rbf = .ok t

def Documented (t : Topology) : Prop := ∃ text, (Json.ofText? text).bind ofJson? = some t

theorem Constructed.accepted {t : Topology} (constructed : t.Constructed) : t.Accepted := by
  obtain ⟨widths, rbf, built | built⟩ := constructed
  · exact ((ofSizes_eq_ok_iff _ _ _).mp built).2
  · exact ((ofSizes_eq_ok_iff _ _ _).mp built).2

theorem documented_iff {t : Topology} : t.Documented ↔ ∀ width ∈ t.sizes, width < Word.limit := by
  constructor
  · rintro ⟨text, read⟩
    obtain ⟨j, -, read⟩ := Option.bind_eq_some_iff.mp read
    exact lt_of_ofJson? read
  · intro words
    exact ⟨t.toJson, by rw [ofText?_toJson, Option.bind_some, ofJson?_written t words]⟩

theorem documents_hold_any_shape (t : Topology) :
    (t.Constructed → ofSizes t.sizes t.rbf = .ok t) ∧ (t.Documented ↔ ∀ width ∈ t.sizes, width < Word.limit) ∧
      (ofSizes t.sizes t.rbf = .ok t ↔ t.Accepted) := by
  have accepts : ofSizes t.sizes t.rbf = .ok t ↔ t.Accepted :=
    (ofSizes_eq_ok_iff _ _ _).trans (and_iff_right rfl)
  exact ⟨fun constructed => accepts.mpr constructed.accepted, documented_iff, accepts⟩

-- No layer at all: no constructor takes it, and nothing can be laid out.
theorem empty_shape_is_read :
    ∃ t : Topology, (Json.ofText? "\x7b\"sizes\":[],\"rbf\":false\x7d").bind ofJson? = some t ∧ t.Documented ∧
      ofSizes t.sizes t.rbf = .error (.invalidConfig .missingLayers) ∧ ¬ t.Accepted ∧
      Layout.ofTopology t = .error Buffer.outside := by
  have read : (Json.ofText? "\x7b\"sizes\":[],\"rbf\":false\x7d").bind ofJson? = some ⟨[], false⟩ := by decide +kernel
  exact ⟨⟨[], false⟩, read, ⟨_, read⟩, rfl, fun accepted => accepted.sizes_ne_nil rfl, rfl⟩

end Topology

end PlaneNet
