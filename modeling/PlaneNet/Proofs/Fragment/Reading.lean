import PlaneNet.Proofs.Fragment.Names

set_option autoImplicit false

namespace PlaneNet.Fragment

section Scanning

def Breaks (cs : List Char) : Prop := ∀ c ∈ cs.head?, isWordChar c = false

def Spells (text : String) (tokens : List Token) : Prop :=
  ∀ rest, Breaks rest → scan [] (text.toList ++ rest) = (scan [] rest).map (tokens ++ ·)

def Closes (text : String) (tokens : List Token) : Prop :=
  ∀ rest, scan [] (text.toList ++ rest) = (scan [] rest).map (tokens ++ ·)

def Opens (text : String) : Prop := ∃ c cs, text.toList = c :: cs ∧ isWordChar c = false

variable {front back : String} {ts us : List Token}

theorem Opens.breaks (opens : Opens back) (rest : List Char) : Breaks (back.toList ++ rest) := by
  obtain ⟨c, cs, chars, apart⟩ := opens
  rw [chars]
  intro c' head
  cases head
  exact apart

theorem Opens.append (opens : Opens front) (back : String) : Opens (front ++ back) := by
  obtain ⟨c, cs, chars, apart⟩ := opens
  exact ⟨c, cs ++ back.toList, by rw [String.toList_append, chars]; rfl, apart⟩

theorem Closes.append (first : Closes front ts) (second : Closes back us) :
    Closes (front ++ back) (ts ++ us) := by
  intro rest
  rw [String.toList_append, List.append_assoc, first, second, Option.map_map]
  simp only [Function.comp_def, List.append_assoc]

theorem Closes.append_spells (first : Closes front ts) (second : Spells back us) :
    Spells (front ++ back) (ts ++ us) := by
  intro rest broken
  rw [String.toList_append, List.append_assoc, first, second rest broken, Option.map_map]
  simp only [Function.comp_def, List.append_assoc]

theorem Spells.append_closes (first : Spells front ts) (second : Closes back us) (opens : Opens back) :
    Closes (front ++ back) (ts ++ us) := by
  intro rest
  rw [String.toList_append, List.append_assoc, first _ (opens.breaks rest), second, Option.map_map]
  simp only [Function.comp_def, List.append_assoc]

theorem Spells.append (first : Spells front ts) (second : Spells back us) (opens : Opens back) :
    Spells (front ++ back) (ts ++ us) := by
  intro rest broken
  rw [String.toList_append, List.append_assoc, first _ (opens.breaks rest), second rest broken,
    Option.map_map]
  simp only [Function.comp_def, List.append_assoc]

theorem closes_of_scan {text : String} {tokens : List Token}
    (each : ∀ rest, scan [] (text.toList ++ rest) =
      tokens.foldr (fun token after => after.map (token :: ·)) (scan [] rest)) :
    Closes text tokens := by
  intro rest
  rw [each]
  clear each
  induction tokens with
  | nil => exact Option.map_id'.symm
  | cons token tokens ih => rw [List.foldr_cons, ih, Option.map_map]; rfl

theorem scan_run (run cs rest : List Char) (letters : cs.all isWordChar = true) :
    scan run (cs ++ rest) = scan (run ++ cs) rest := by
  induction cs generalizing run with
  | nil => rw [List.append_nil, List.nil_append]
  | cons c cs ih =>
    rw [List.all_cons, Bool.and_eq_true] at letters
    rw [List.cons_append, scan, if_pos letters.1, ih _ letters.2, List.append_assoc, List.singleton_append]

theorem scan_of_breaks (run : List Char) {rest : List Char} (broken : Breaks rest) :
    scan run rest = closeRun run (scan [] rest) := by
  cases rest with
  | nil => rfl
  | cons c cs =>
    have apart : ¬ isWordChar c = true := by simp [broken c rfl]
    simp only [scan, if_neg apart]
    rfl

theorem spells_of_run {text : String} {token : Token} (nonempty : text.toList ≠ [])
    (letters : text.toList.all isWordChar = true) (read : Token.ofRun? text.toList = some token) :
    Spells text [token] := by
  intro rest broken
  rw [scan_run _ _ _ letters, List.nil_append, scan_of_breaks _ broken]
  cases chars : text.toList with
  | nil => exact absurd chars nonempty
  | cons c cs =>
    rw [chars] at read
    simp only [closeRun, read]
    rfl

theorem spells_word {text : String} {c : Char} {cs : List Char} (chars : text.toList = c :: cs)
    (letters : text.toList.all isWordChar = true) (first : Decimal.isDigit c = false) :
    Spells text [.word text] := by
  refine spells_of_run (by simp [chars]) letters ?_
  have number : ¬ text.toList.all Decimal.isDigit = true := by simp [chars, first]
  have other : ¬ text.toList.head?.any Decimal.isDigit = true := by simp [chars, first]
  rw [Token.ofRun?, if_neg number, if_neg other, String.ofList_toList]

theorem spells_number (i : Nat) : Spells (toString i) [.number i] := by
  have chars : (toString i).toList = Nat.toDigits 10 i := Nat.toList_repr
  refine spells_of_run (by rw [chars]; exact Nat.toDigits_ne_nil) ?_ ?_
  · rw [chars, List.all_eq_true]
    intro c member
    obtain ⟨d, small, rfl⟩ := exists_digit_of_mem_toDigits (by decide) i member
    exact isWordChar_digitChar (by omega)
  · rw [chars, Token.ofRun?, if_pos (Decimal.all_isDigit_toDigits i), Decimal.value_toDigits]

theorem spells_variable (v : Variable) : Spells v.text [.word v.text] := by
  cases v with
  | unit layer index =>
    refine spells_word (toList_unitName layer index) ?_ rfl
    have layers := all_isWordChar_hexName layer
    have units := all_isWordChar_hexName index
    rw [Variable.text, toList_unitName, List.all_cons, List.all_append, layers, units]
    rfl
  | output => exact spells_word rfl rfl rfl

end Scanning

section Tokens

def weightTokens (i : Nat) : List Token := [.word weightsName, .sign '[', .number i, .sign ']']

def termTokens : Nat × Variable → List Token
  | (weight, source) => [.sign '+'] ++ weightTokens weight ++ [.sign '*'] ++ [.word source.text]

def Expression.tokens : Expression → List Token
  | .gaussian x y meanX meanY variance =>
      [.word "rbf", .sign '(', .word "vec2", .sign '('] ++ [.word x.text] ++ [.sign ','] ++ [.word y.text]
        ++ [.sign ')', .sign ',', .word "vec2", .sign '('] ++ weightTokens meanX ++ [.sign ',']
        ++ weightTokens meanY ++ [.sign ')', .sign ','] ++ weightTokens variance ++ [.sign ')']
  | .activated bias terms =>
      [.word "activate", .sign '('] ++ weightTokens bias ++ terms.flatMap termTokens ++ [.sign ')']

def Statement.tokens (s : Statement) : List Token :=
  [.word "float"] ++ [.word s.target.text] ++ [.sign '='] ++ s.value.tokens ++ [.sign ';']

theorem closes_weight (i : Nat) : Closes (weightText i) (weightTokens i) := by
  have name : Spells weightsName [.word weightsName] := spells_word rfl rfl rfl
  have bracket : Closes "[" [.sign '['] := closes_of_scan fun _ => rfl
  have bracket' : Closes "]" [.sign ']'] := closes_of_scan fun _ => rfl
  have front := name.append_closes bracket ⟨_, _, rfl, rfl⟩
  exact (front.append_spells (spells_number i)).append_closes bracket' ⟨_, _, rfl, rfl⟩

theorem spells_term (term : Nat × Variable) : Spells (termText term) (termTokens term) := by
  have plus : Closes " + " [.sign '+'] := closes_of_scan fun _ => rfl
  have times : Closes " * " [.sign '*'] := closes_of_scan fun _ => rfl
  exact ((plus.append (closes_weight term.1)).append times).append_spells (spells_variable term.2)

theorem opens_term (term : Nat × Variable) : Opens (termText term) := by
  have plus : Opens " + " := ⟨_, _, rfl, rfl⟩
  exact ((plus.append _).append _).append _

theorem spells_terms (terms : List (Nat × Variable)) :
    Spells (String.join (terms.map termText)) (terms.flatMap termTokens) := by
  induction terms with
  | nil => exact fun _ _ => Option.map_id'.symm
  | cons term rest ih =>
    rw [List.map_cons, String.join_cons, List.flatMap_cons]
    cases rest with
    | nil =>
      rw [List.map_nil, String.join_nil, String.append_empty, List.flatMap_nil, List.append_nil]
      exact spells_term term
    | cons next rest =>
      refine (spells_term term).append ih ?_
      rw [List.map_cons, String.join_cons]
      exact (opens_term next).append _

theorem closes_expression (e : Expression) : Closes e.text e.tokens := by
  have close : Closes ")" [.sign ')'] := closes_of_scan fun _ => rfl
  cases e with
  | gaussian x y meanX meanY variance =>
    have call : Closes "rbf(vec2(" [.word "rbf", .sign '(', .word "vec2", .sign '('] :=
      closes_of_scan fun _ => rfl
    have comma : Closes ", " [.sign ','] := closes_of_scan fun _ => rfl
    have between : Closes "), vec2(" [.sign ')', .sign ',', .word "vec2", .sign '('] :=
      closes_of_scan fun _ => rfl
    have after : Closes "), " [.sign ')', .sign ','] := closes_of_scan fun _ => rfl
    have point := (call.append_spells (spells_variable x)).append_closes comma ⟨_, _, rfl, rfl⟩
    have point' := (point.append_spells (spells_variable y)).append_closes between ⟨_, _, rfl, rfl⟩
    have mean := (point'.append (closes_weight meanX)).append comma
    exact (((mean.append (closes_weight meanY)).append after).append (closes_weight variance)).append close
  | activated bias terms =>
    have call : Closes "activate(" [.word "activate", .sign '('] := closes_of_scan fun _ => rfl
    have front := (call.append (closes_weight bias)).append_spells (spells_terms terms)
    exact front.append_closes close ⟨_, _, rfl, rfl⟩

theorem scan_statement (s : Statement) : scan [] s.text.toList = some s.tokens := by
  have float : Closes "  float " [.word "float"] := closes_of_scan fun _ => rfl
  have equals : Closes " = " [.sign '='] := closes_of_scan fun _ => rfl
  have ends : Closes ";\n" [.sign ';'] := closes_of_scan fun _ => rfl
  have front := (float.append_spells (spells_variable s.target)).append_closes equals ⟨_, _, rfl, rfl⟩
  have whole := ((front.append (closes_expression s.value)).append ends) []
  rw [List.append_nil] at whole
  rw [Statement.text, whole]
  simp [scan, closeRun, Statement.tokens]

end Tokens

section Terms

def addTerm (sum : Term) : Nat × Variable → Term
  | (weight, source) => .sum sum (.product (.entry weightsName weight) (.name source.text))

def Expression.term : Expression → Term
  | .gaussian x y meanX meanY variance =>
      .call "rbf" (.listed
        (.listed (.call "vec2" (.listed (.name x.text) (.name y.text)))
          (.call "vec2" (.listed (.entry weightsName meanX) (.entry weightsName meanY))))
        (.entry weightsName variance))
  | .activated bias terms => .call "activate" (terms.foldl addTerm (.entry weightsName bias))

def Statement.declaration (s : Statement) : Declaration := ⟨s.target.text, s.value.term⟩

theorem read_term {r : Reader} {total : Term} (sum : r.sum? = some total) (term : Nat × Variable) :
    (termTokens term).foldlM Reader.step r =
      some ⟨r.calls, ⟨r.pending.arguments, some total, some (.entry weightsName term.1)⟩,
        .word term.2.text⟩ := by
  have plus : r.step (.sign '+') = some ⟨r.calls, ⟨r.pending.arguments, some total, none⟩, .missing⟩ := by
    rw [Reader.step, sum]
    rfl
  rw [termTokens, List.append_assoc, List.append_assoc, List.singleton_append, List.foldlM_cons, plus]
  rfl

-- Between two terms a reader holds the sum so far, in parts that depend on how the last operand was written.
theorem read_terms (terms : List (Nat × Variable)) (r : Reader) (total : Term) (sum : r.sum? = some total) :
    ∃ last, (terms.flatMap termTokens).foldlM Reader.step r = some last ∧ last.calls = r.calls ∧
      last.pending.arguments = r.pending.arguments ∧ last.sum? = some (terms.foldl addTerm total) := by
  induction terms generalizing r total with
  | nil => exact ⟨r, rfl, rfl, rfl, sum⟩
  | cons term rest ih =>
    have first := read_term sum term
    obtain ⟨last, run, calls, arguments, whole⟩ := ih
      ⟨r.calls, ⟨r.pending.arguments, some total, some (.entry weightsName term.1)⟩, .word term.2.text⟩
      (addTerm total term) rfl
    refine ⟨last, ?_, calls, arguments, whole⟩
    rw [List.flatMap_cons, List.foldlM_append, first]
    exact run

theorem read_expression (e : Expression) :
    e.tokens.foldlM Reader.step Reader.start = some ⟨[], .none, .closed e.term⟩ := by
  cases e with
  | gaussian x y meanX meanY variance => rfl
  | activated bias terms =>
    have front : ([Token.word "activate", .sign '('] ++ weightTokens bias).foldlM Reader.step Reader.start =
        some ⟨[("activate", .none)], .none, .closed (.entry weightsName bias)⟩ := rfl
    obtain ⟨last, run, calls, arguments, whole⟩ := read_terms terms
      ⟨[("activate", .none)], .none, .closed (.entry weightsName bias)⟩ (.entry weightsName bias) rfl
    have close : last.step (.sign ')') =
        some ⟨[], .none, .closed (.call "activate" (terms.foldl addTerm (.entry weightsName bias)))⟩ := by
      rw [Reader.step, Reader.arguments?, calls, whole, arguments]
      rfl
    rw [Expression.tokens, List.foldlM_append, List.foldlM_append, front]
    simp only [Option.bind_eq_bind, Option.bind_some, run, List.foldlM_cons, close]
    rfl

theorem ofLine?_text (s : Statement) : Declaration.ofLine? s.text = some s.declaration := by
  have last : (s.value.tokens ++ [Token.sign ';']).getLast? = some (.sign ';') := List.getLast?_concat
  rw [Declaration.ofLine?, scan_statement, Statement.tokens]
  simp only [List.cons_append, List.nil_append, Option.bind_eq_bind, Option.bind_some,
    Declaration.ofTokens?, last, if_true, List.dropLast_concat, read_expression]
  rfl

example : Declaration.ofLine? "  float val = activate(weights[0] + weights[1] * v00000000);\n" =
    some ⟨"val", .call "activate" (.sum (.entry "weights" 0)
      (.product (.entry "weights" 1) (.name "v00000000")))⟩ := by
  decide

example : Declaration.ofLine? "  float val = activate(weights[0];\n" = none := by decide

end Terms

end PlaneNet.Fragment
