import DeclGen.Proofs.Slots.Declared
import DeclGen.Proofs.Slots.Freshness
import DeclGen.Proofs.ZeroValue

/-!
# Headers as they are read

The header of a method, the spec of an interface and the type of a function are read back as a name, the slots
with their names and types, and the types of the results (`Slots.readHeader`). For a method of a declared
signature they all fit the signature slot by slot (`Method.Realizes.fits`), whatever the receiver, as long as no
character that separates slots stands in the namespace of its types.
-/

namespace DeclGen

open Source Text

namespace Slots

/-! ## Texts without separators -/

/-- What holds of all characters in a list is decided along the list, and not by trying all characters. -/
instance (priority := high) decidableForallMemChar {P : Char → Prop} [DecidablePred P] (l : List Char) :
    Decidable (∀ c ∈ l, P c) :=
  List.decidableBAll P l

/-- The characters that stand between the parts of a header, and between headers. -/
def separators : List Char := [' ', '(', ')', ',', '\n']

/-- A text in which nothing is separated. -/
def IsUnparted (text : String) : Prop := ∀ c ∈ separators, c ∉ text.toList

instance (text : String) : Decidable (IsUnparted text) :=
  inferInstanceAs (Decidable (∀ c ∈ separators, c ∉ text.toList))

lemma isUnparted_append {a b : String} : IsUnparted (a ++ b) ↔ IsUnparted a ∧ IsUnparted b := by
  unfold IsUnparted
  simp only [String.toList_append, List.mem_append, not_or]
  exact forall₂_and

lemma isUnparted_of_isName {name : String} (h : IsName name) : IsUnparted name := by
  have hname : ∀ c ∈ separators, Unicode.isNameStart c = false ∧ Unicode.isNamePart c = false := by
    simp only [separators, List.forall_mem_cons, List.not_mem_nil, false_imp_iff, implies_true, and_true]
    decide
  exact fun c hc => h.notMem (hname c hc).1 (hname c hc).2

/-- A part of a header that can be told from the others. -/
structure IsToken (text : String) : Prop where
  ne_empty : text ≠ ""
  unparted : IsUnparted text

lemma IsToken.append_left {sign text : String} (h : IsToken text) (hsign : IsUnparted sign) :
    IsToken (sign ++ text) where
  ne_empty := fun heq => h.ne_empty (String.append_eq_empty_iff.mp heq).2
  unparted := isUnparted_append.mpr ⟨hsign, h.unparted⟩

lemma isToken_of_isName {name : String} (h : IsName name) : IsToken name :=
  ⟨(isPlain_of_isName h).ne_empty, isUnparted_of_isName h⟩

lemma IsToken.isPart {text : String} (h : IsToken text) : IsPart text where
  ne_empty := h.ne_empty
  whole := h.unparted ',' (by decide)
  start := fun hhead => h.unparted ' ' (by decide) (List.mem_of_head? hhead)

/-- A resolved type is written without separators. -/
lemma isToken_of_resolveWith {ns : String} (hns : IsUnparted ns) {e : TypeExpr} (he : e.WellNamed)
    {qualify : Bool} {s : TypeSignature} (hs : e.resolveWith ns qualify = some s) : IsToken s.rendered := by
  have hopen : ∀ text ∈ [Naming.anyType, Naming.openType], IsToken text := by
    simp only [List.forall_mem_cons, List.not_mem_nil, false_imp_iff, implies_true, and_true]
    exact ⟨⟨by decide, by decide⟩, ⟨by decide, by decide⟩⟩
  induction e generalizing qualify s with
  | name id =>
    have hid := isToken_of_isName (he.2 id (by simp [TypeExpr.names]))
    unfold TypeExpr.resolveWith at hs
    split at hs
    · obtain rfl := Option.some.inj hs
      exact hopen _ (List.mem_cons_self)
    · obtain rfl := Option.some.inj hs
      show IsToken (TypeExpr.qualifiedName id ns qualify)
      unfold TypeExpr.qualifiedName
      split
      · exact hid
      · exact hid.append_left (isUnparted_append.mpr ⟨hns, by decide⟩)
  | slice e ih | pointer e ih | variadic e ih =>
    obtain ⟨t, ht, rfl⟩ := Option.map_eq_some_iff.mp hs
    exact (ih he ht).append_left (by decide)
  | openType =>
    obtain rfl := Option.some.inj hs
    exact hopen _ (List.mem_cons_of_mem _ List.mem_cons_self)
  | qualified p id ih =>
    have hid := isToken_of_isName (he.2 id (by simp [TypeExpr.names]))
    obtain ⟨t, ht, rfl⟩ := Option.map_eq_some_iff.mp hs
    cases p with
    | name package =>
      have hpackage := ih ⟨rfl, fun n hn => he.2 n (by simp_all [TypeExpr.names])⟩ ht
      exact hid.append_left (isUnparted_append.mpr ⟨hpackage.unparted, by decide⟩)
    | _ => exact absurd he.1 (by simp [TypeExpr.packagesAreNames])
  | unsupported shape text => simp [TypeExpr.resolveWith] at hs

/-! ## Reading headers -/

/-- What a header says: a name, the slots with their names and types, and the types of the results. -/
structure Header where
  name : String
  slots : List (String × String)
  results : List String
deriving DecidableEq, Repr

/-- A header as it is written. -/
def Header.text (h : Header) : String :=
  let results := match h.results with
    | [] => ""
    | [r] => " " ++ r
    | rs => " (" ++ commaList rs ++ ")"
  h.name ++ "(" ++ commaList (h.slots.map fun slot => slot.1 ++ " " ++ slot.2) ++ ")" ++ results

/-- The types in a result clause: none, one behind a space, or several in parentheses. -/
def readResults : List Char → List String
  | ' ' :: '(' :: rest => partsOf (rest.takeWhile (· != ')'))
  | ' ' :: rest => [String.ofList rest]
  | _ => []

/-- A header is read up to the parenthesis that opens, from there to the one that closes, and to its end. -/
def readHeader (text : String) : Header :=
  let inside := (text.toList.dropWhile (· != '(')).drop 1
  { name := String.ofList (text.toList.takeWhile (· != '('))
    slots := readSlots (inside.takeWhile (· != ')'))
    results := readResults ((inside.dropWhile (· != ')')).drop 1) }

/-- What is passed in a call. -/
def readCall (text : String) : List (String × Bool) :=
  readArguments (((text.toList.dropWhile (· != '(')).drop 1).takeWhile (· != ')'))

section Reading

variable {name inside : String}

lemma readHeader_append (hname : '(' ∉ name.toList) (hinside : ')' ∉ inside.toList) (behind : String) :
    readHeader (name ++ "(" ++ inside ++ ")" ++ behind) =
      ⟨name, readSlots inside.toList, readResults behind.toList⟩ := by
  have hlist : (name ++ "(" ++ inside ++ ")" ++ behind).toList =
      name.toList ++ '(' :: (inside.toList ++ ')' :: behind.toList) := by simp
  rw [readHeader, hlist, takeWhile_ne_append, takeWhile_ne_of_notMem hname, dropWhile_ne_append hname,
    List.drop_succ_cons, List.drop_zero, takeWhile_ne_append, takeWhile_ne_of_notMem hinside,
    dropWhile_ne_append hinside, String.ofList_toList]
  rfl

lemma readCall_append (hname : '(' ∉ name.toList) (hinside : ')' ∉ inside.toList) :
    readCall (name ++ "(" ++ inside ++ ")") = readArguments inside.toList := by
  have hlist : (name ++ "(" ++ inside ++ ")").toList =
      name.toList ++ '(' :: (inside.toList ++ [')']) := by simp
  rw [readCall, hlist, dropWhile_ne_append hname, List.drop_succ_cons, List.drop_zero, takeWhile_ne_append,
    takeWhile_ne_of_notMem hinside]

/-- What a call passes does not depend on whether its results are returned. -/
lemma readCall_return (call : String) : readCall ("return " ++ call) = readCall call := by
  have hlist : ("return " ++ call).toList = "return ".toList ++ call.toList := by simp
  rw [readCall, hlist, List.dropWhile_append_of_pos (by decide), readCall]

/-- A character of no part, and neither a comma nor a space, stands in no list. -/
lemma notMem_commaList {c : Char} {parts : List String} (hcomma : c ≠ ',') (hspace : c ≠ ' ')
    (h : ∀ part ∈ parts, c ∉ part.toList) : c ∉ (commaList parts).toList := by
  have hseparator : occurrences c ", " = 0 := occurrences_eq_zero_iff.mpr (by simp [hcomma, hspace])
  rw [← occurrences_eq_zero_iff, commaList, occurrences_intercalate hseparator,
    sum_occurrences_eq_zero_iff]
  exact h

end Reading

end Slots

open Slots

/-! ## Headers of methods -/

/-- What a header says of a method that is called so in a declaration on `receiver`. -/
def Method.heading (m : Method) (called receiver : String) : Header :=
  ⟨called, (names m.params receiver).zip (m.params.map (·.slotType)), m.returns.map (·.slotType)⟩

/-- What a call passes on of the slots of a method. -/
def Method.passed (m : Method) (receiver : String) : List (String × Bool) :=
  (names m.params receiver).zip (m.params.map (·.isVariadic))

/-- What is written of a method is what is said of it. -/
lemma text_heading (m : Method) (called receiver : String) : (m.heading called receiver).text =
    called ++ "(" ++ paramList m.params receiver ++ ")" ++ resultClause m.returns := by
  have hslots : (m.heading called receiver).slots.map (fun slot => slot.1 ++ " " ++ slot.2) =
      ((names m.params receiver).zip m.params).map fun x => x.1 ++ " " ++ x.2.slotType := by
    rw [Method.heading, List.zip_map_right, List.map_map]
    rfl
  rw [Header.text, hslots, paramList]
  obtain ⟨name, params, _ | ⟨r, _ | ⟨r', rest⟩⟩⟩ := m
  · rfl
  · rfl
  · rfl

/-- A method of which every header can be read. -/
structure Method.IsReadable (m : Method) : Prop where
  name : IsName m.name
  names : ∀ p ∈ m.params, p.name ≠ "" → IsName p.name
  params : ∀ p ∈ m.params, IsToken p.slotType
  returns : ∀ p ∈ m.returns, IsToken p.slotType

section Headers

variable {m : Method} {receiver : String}

/-- The names of the slots of a readable method are names. -/
lemma Method.IsReadable.isName_of_mem_names (h : m.IsReadable) {n : String}
    (hn : n ∈ Slots.names m.params receiver) : IsName n := by
  rcases mem_names_iff.mp hn with ⟨p, hp, hkeeps, rfl⟩ | ⟨i, p, -, -, k, rfl, -⟩
  · exact h.names p hp (keeps_iff.mp hkeeps).1
  · exact isName_candidate i k

lemma readResults_resultClause {returns : List Param} (h : ∀ p ∈ returns, IsToken p.slotType) :
    readResults (resultClause returns).toList = returns.map (·.slotType) := by
  match returns with
  | [] => rfl
  | [r] =>
    have hr := (List.forall_mem_cons.mp h).1
    obtain ⟨c, rest, hlist⟩ :=
      List.exists_cons_of_ne_nil fun heq => hr.ne_empty (String.toList_eq_nil_iff.mp heq)
    have hc : c ≠ '(' := fun heq => hr.unparted '(' (by decide) (by rw [hlist, heq]; exact List.mem_cons_self)
    have hclause : (resultClause [r]).toList = ' ' :: c :: rest := by simp [resultClause, hlist]
    rw [hclause, List.map_singleton, ← String.ofList_toList (s := r.slotType), hlist]
    unfold readResults
    split
    · next hopening =>
      exact absurd (List.cons.inj (List.cons.inj hopening).2).1 hc
    · next hspace => rw [(List.cons.inj hspace).2]
    · next hnone => exact absurd rfl (hnone _)
  | r :: r' :: rest =>
    have hclosed : ')' ∉ (commaList ((r :: r' :: rest).map (·.slotType))).toList := by
      apply notMem_commaList (by decide) (by decide)
      intro part hpart
      obtain ⟨p, hp, rfl⟩ := List.mem_map.mp hpart
      exact (h p hp).unparted ')' (by decide)
    have hclause : (resultClause (r :: r' :: rest)).toList =
        ' ' :: '(' :: ((commaList ((r :: r' :: rest).map (·.slotType))).toList ++ [')']) := by
      simp [resultClause]
    rw [hclause, readResults, takeWhile_ne_append, takeWhile_ne_of_notMem hclosed]
    apply partsOf_commaList
    intro part hpart
    obtain ⟨p, hp, rfl⟩ := List.mem_map.mp hpart
    exact (h p hp).isPart

namespace Method.IsReadable

variable (h : m.IsReadable)
include h

/-- Neither a closing parenthesis nor a line feed stands in the list of the parameters. -/
lemma notMem_paramList {c : Char} (hc : c ∈ [')', '\n']) (receiver : String) :
    c ∉ (paramList m.params receiver).toList := by
  obtain ⟨hseparator, hcomma, hspace⟩ : c ∈ separators ∧ c ≠ ',' ∧ c ≠ ' ' := by
    revert c
    decide
  apply notMem_commaList hcomma hspace
  intro part hpart
  obtain ⟨⟨n, p⟩, hpair, rfl⟩ := List.mem_map.mp hpart
  obtain ⟨hn, hp⟩ := List.of_mem_zip hpair
  have hname := isUnparted_of_isName (h.isName_of_mem_names hn) c hseparator
  have htype := (h.params p hp).unparted c hseparator
  have hpart : c ∉ (n ++ " " ++ p.slotType).toList := by simp [hname, htype, hspace]
  exact hpart

lemma notMem_callArgs {c : Char} (hc : c ∈ [')', '\n']) (receiver : String) :
    c ∉ (callArgs m.params receiver).toList := by
  obtain ⟨hseparator, hcomma, hspace, hdot⟩ : c ∈ separators ∧ c ≠ ',' ∧ c ≠ ' ' ∧ c ≠ '.' := by
    revert c
    decide
  apply notMem_commaList hcomma hspace
  intro part hpart
  obtain ⟨⟨n, p⟩, hpair, rfl⟩ := List.mem_map.mp hpart
  have hname := isUnparted_of_isName (h.isName_of_mem_names (List.of_mem_zip hpair).1) c hseparator
  have hpart : c ∉ (if p.isVariadic then n ++ "..." else n).toList := by split <;> simp [hname, hdot]
  exact hpart

/-- The slots of a header are the names of the slots with their types. -/
lemma readHeader_clause {name : String} (hname : '(' ∉ name.toList) (receiver : String) :
    readHeader (name ++ "(" ++ paramList m.params receiver ++ ")" ++ resultClause m.returns) =
      m.heading name receiver := by
  have hnames : ∀ n ∈ Slots.names m.params receiver, IsPlain n :=
    fun n hn => isPlain_of_isName (h.isName_of_mem_names hn)
  have htypes : ∀ p ∈ m.params, ',' ∉ p.slotType.toList :=
    fun p hp => (h.params p hp).unparted ',' (by decide)
  rw [readHeader_append hname (h.notMem_paramList (by decide) receiver), readSlots_paramList hnames htypes,
    readResults_resultClause h.returns]
  rfl

lemma readHeader_header (receiver : String) : readHeader (m.header receiver) = m.heading m.name receiver :=
  h.readHeader_clause (isUnparted_of_isName h.name '(' (by decide)) receiver

lemma readHeader_funcType : readHeader m.funcType = m.heading "func" "" :=
  h.readHeader_clause (show '(' ∉ "func".toList by decide) ""

/-- A call passes the names of the slots, those of variadic ones spread. -/
lemma readCall_call {name : String} (hname : '(' ∉ name.toList) (receiver : String) :
    readCall (name ++ "(" ++ callArgs m.params receiver ++ ")") = m.passed receiver := by
  rw [readCall_append hname (h.notMem_callArgs (by decide) receiver)]
  exact readArguments_callArgs fun n hn => isPlain_of_isName (h.isName_of_mem_names hn)

/-- A header stands on one line. -/
lemma newLine_notMem_header (receiver : String) :
    '\n' ∉ (m.header receiver).toList ∧ '\n' ∉ m.funcType.toList := by
  have hparams : ∀ receiver, '\n' ∉ (paramList m.params receiver).toList :=
    fun receiver => h.notMem_paramList (by decide) receiver
  have hresults : '\n' ∉ (resultClause m.returns).toList := by
    have htypes : ∀ part ∈ m.returns.map (·.slotType), '\n' ∉ part.toList := by
      intro part hpart
      obtain ⟨p, hp, rfl⟩ := List.mem_map.mp hpart
      exact (h.returns p hp).unparted '\n' (by decide)
    have hlist := notMem_commaList (by decide) (by decide) htypes
    unfold resultClause
    split
    · decide
    · next r hr => simpa [hr] using htypes
    · simp [hlist]
  have hname := isUnparted_of_isName h.name '\n' (by decide)
  constructor
  · simp [Method.header, hname, hparams, hresults]
  · simp [Method.funcType, hparams, hresults]

end Method.IsReadable

end Headers

/-! ## Zero values -/

/-- The zero value of a slot whose type can be read is a part of a list, and on one line. -/
lemma isPart_zeroValue {p : Param} (h : IsToken p.slotType) :
    IsPart p.zeroValue ∧ '\n' ∉ p.zeroValue.toList := by
  have hfree : ∀ c ∈ [' ', ',', '\n'], c ∉ p.zeroValue.toList := by
    intro c hc
    unfold Param.zeroValue
    cases hsignature : p.signature with
    | none =>
      have hall : ∀ c ∈ [' ', ',', '\n'], c ∉ "nil".toList := by decide
      exact hall c hc
    | some s =>
      have hseparator : ∀ c ∈ [' ', ',', '\n'], c ∈ separators := by decide
      have htype := h.unparted c (hseparator c hc)
      rw [Param.slotType, hsignature] at htype
      exact notMem_zeroValueFor hc htype
  have hne : p.zeroValue ≠ "" := by
    unfold Param.zeroValue
    cases p.signature with
    | none =>
      show "nil" ≠ ""
      decide
    | some s => exact zeroValueFor_ne_empty s.kind s.rendered
  exact ⟨⟨hne, hfree ',' (by decide), fun hhead => hfree ' ' (by decide) (List.mem_of_head? hhead)⟩,
    hfree '\n' (by decide)⟩

/-! ## Headers of declared signatures -/

namespace Slots

/-- The text of a type. One that is missing is open. -/
def slotText (s : Option TypeSignature) : String := s.elim Naming.openType (·.rendered)

/-- The zero value of a type, which is nil where the type is missing. -/
def zeroText (s : Option TypeSignature) : String := s.elim "nil" (·.zeroValue)

/-- The type is there, and takes any number of values. -/
def takesAny (s : Option TypeSignature) : Bool := s.any (·.kind == .variadic)

/-- The header has the slots and the results of the signature, in order, in a method on `receiver`: each slot
with the type of its own group, and with its own name if that may stand. -/
structure Header.Fits (ns receiver : String) (sig : Signature) (h : Header) : Prop where
  slots : List.Forall₂ (fun slot written =>
      (Usable receiver slot.1 → written.1 = slot.1) ∧ written.2 = slotText (slot.2.resolve ns))
    (declaredSlots sig.params) h.slots
  results : h.results = (declaredSlots sig.results).map fun slot => slotText (slot.2.resolveResult ns)

/-- A call passes every slot of the header on, by the name that it has there, and spreads those that take any
number of values. -/
def Header.PassesOn (ns : String) (sig : Signature) (h : Header) (arguments : List (String × Bool)) : Prop :=
  arguments =
    (h.slots.map (·.1)).zip ((declaredSlots sig.params).map fun slot => takesAny (slot.2.resolve ns))

lemma forall₂_names (params : List Param) (receiver : String) :
    List.Forall₂ (fun p written => (Usable receiver p.name → written.1 = p.name) ∧ written.2 = p.slotType)
      params ((names params receiver).zip (params.map (·.slotType))) := by
  rw [List.forall₂_iff_get]
  refine ⟨by simp [length_names], fun i hi hi' => ?_⟩
  obtain ⟨name, hname, hspec⟩ := names_at receiver (List.getElem?_eq_getElem hi)
  have hlength : i < (names params receiver).length := by rwa [length_names]
  rw [List.getElem?_eq_getElem hlength, Option.some_inj] at hname
  simp only [List.get_eq_getElem, List.getElem_zip, List.getElem_map, hname, and_true]
  intro husable
  rwa [if_pos (keeps_iff.mpr husable)] at hspec

/-- A slot is unnamed, or has a name of its group. -/
lemma isName_of_mem_declaredSlots {groups : List ParamDecl} (h : ∀ g ∈ groups, g.WellNamed)
    {slot : String × TypeExpr} (hslot : slot ∈ declaredSlots groups) :
    (slot.1 ≠ "" → IsName slot.1) ∧ slot.2.WellNamed := by
  obtain ⟨g, hg, hmem⟩ := List.mem_flatMap.mp hslot
  split at hmem
  · obtain rfl := List.mem_singleton.mp hmem
    exact ⟨fun hne => absurd rfl hne, (h g hg).type⟩
  · obtain ⟨n, hn, rfl⟩ := List.mem_map.mp hmem
    exact ⟨fun _ => (h g hg).names n hn, (h g hg).type⟩

/-- A slot of a declared type is written without separators, also where its type is missing. -/
lemma isToken_slotText {ns : String} (hns : IsUnparted ns) {e : TypeExpr} (he : e.WellNamed) :
    IsToken (slotText (e.resolve ns)) ∧ IsToken (slotText (e.resolveResult ns)) := by
  have hopen : IsToken (slotText none) := ⟨by decide, by decide⟩
  have htype : IsToken (slotText (e.resolve ns)) := by
    cases hresolve : e.resolve ns with
    | none => exact hopen
    | some s => exact isToken_of_resolveWith hns he hresolve
  refine ⟨htype, ?_⟩
  unfold TypeExpr.resolveResult
  split
  · exact hopen
  · exact htype

end Slots

namespace Method.Realizes

variable {ns name : String} {sig : Signature} {m : Method} (h : m.Realizes ns name sig)
include h

/-- The parameters are what is declared, one by one. -/
lemma params_eq : m.params = (declaredSlots sig.params).map fun slot => ⟨slot.1, slot.2.resolve ns⟩ := by
  have hparams := List.Forall₂.imp (fun slot p hp => show (⟨slot.1, slot.2.resolve ns⟩ : Param) = p by
    rw [← hp.1, ← hp.2]) h.params
  rw [← List.forall₂_map_left_iff, List.forall₂_eq_eq_eq] at hparams
  exact hparams.symm

lemma returns_eq :
    m.returns = (declaredSlots sig.results).map fun slot => ⟨slot.1, slot.2.resolveResult ns⟩ := by
  have hreturns := List.Forall₂.imp (fun slot p hp =>
    show (⟨slot.1, slot.2.resolveResult ns⟩ : Param) = p by rw [← hp.1, ← hp.2]) h.returns
  rw [← List.forall₂_map_left_iff, List.forall₂_eq_eq_eq] at hreturns
  exact hreturns.symm

lemma isReadable (hname : IsName name) (hsig : sig.WellNamed) (hns : IsUnparted ns) : m.IsReadable where
  name := h.name ▸ hname
  names := by
    rw [h.params_eq, List.forall_mem_map]
    exact fun slot hslot => (isName_of_mem_declaredSlots hsig.1 hslot).1
  params := by
    rw [h.params_eq, List.forall_mem_map]
    exact fun slot hslot => (isToken_slotText hns (isName_of_mem_declaredSlots hsig.1 hslot).2).1
  returns := by
    rw [h.returns_eq, List.forall_mem_map]
    exact fun slot hslot => (isToken_slotText hns (isName_of_mem_declaredSlots hsig.2 hslot).2).2

/-- The headers of a method fit the signature that it is made of, whatever they are called. -/
lemma fits (called receiver : String) : (m.heading called receiver).Fits ns receiver sig where
  slots := by
    have hnames := forall₂_names m.params receiver
    nth_rewrite 1 [h.params_eq] at hnames
    rwa [List.forall₂_map_left_iff] at hnames
  results := by
    show m.returns.map (·.slotType) = _
    rw [h.returns_eq, List.map_map]
    rfl

/-- The calls of a method pass its slots on. -/
lemma passesOn (called receiver : String) :
    (m.heading called receiver).PassesOn ns sig (m.passed receiver) := by
  have hvariadic : m.params.map (·.isVariadic) =
      (declaredSlots sig.params).map fun slot => takesAny (slot.2.resolve ns) := by
    rw [h.params_eq, List.map_map]
    rfl
  have hlength : (Slots.names m.params receiver).length ≤ (m.params.map (·.slotType)).length := by
    rw [length_names, List.length_map]
  rw [Header.PassesOn, Method.heading, Method.passed, hvariadic, List.map_fst_zip hlength]

/-- The zero values of a method are those of its results. -/
lemma zeroValues : m.returns.map (·.zeroValue) =
    (declaredSlots sig.results).map fun slot => zeroText (slot.2.resolveResult ns) := by
  rw [h.returns_eq, List.map_map]
  rfl

end Method.Realizes

end DeclGen
