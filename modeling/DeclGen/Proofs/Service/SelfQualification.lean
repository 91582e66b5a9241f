import DeclGen.Generate.Service
import DeclGen.Proofs.Config.Validation
import DeclGen.Proofs.Qualifier.Layout
import DeclGen.Proofs.Slots.Names

/-!
# Self-qualification in a service

The text of a service belongs to the domain package, and the name of that package is stripped from all of
it. What is asked for is less: that the types of the slots lose the name, and that everything else is as
it was written. The two agree exactly when nothing else in the text looks like a use of the package
(`Service.Undisturbed`). Places where something can are the receiver in front of its field, the
last words of comments, and a variadic parameter in front of the dots that spread it.
-/

namespace DeclGen

open Text Qualifier

/-! ## The same declarations over other types -/

/-- The slot with its type written as `f` says. -/
def Param.mapType (f : String → String) (p : Param) : Param :=
  { p with signature := p.signature.map fun t => { t with rendered := f t.rendered } }

/-- The method with the types of its slots written as `f` says. -/
def Method.mapTypes (f : String → String) (m : Method) : Method :=
  { m with params := m.params.map (·.mapType f), returns := m.returns.map (·.mapType f) }

/-- The service with the types of all slots written as `f` says. -/
def ServiceMethodSet.mapTypes (f : String → String) (s : ServiceMethodSet) : ServiceMethodSet :=
  { s with methods := s.methods.map (·.mapTypes f) }

lemma Param.name_mapType (f : String → String) (p : Param) : (p.mapType f).name = p.name := rfl

namespace Slots

lemma namesFrom_mapType (f : String → String) (receiver : String) (i : Nat) (taken : List String)
    (params : List Param) :
    namesFrom receiver i taken (params.map (·.mapType f)) = namesFrom receiver i taken params := by
  induction params generalizing i taken with
  | nil => rfl
  | cons p rest ih => simp only [List.map_cons, namesFrom_cons, Param.name_mapType, ih]

/-- The names of slots do not depend on their types. -/
lemma names_mapType (f : String → String) (params : List Param) (receiver : String) :
    names (params.map (·.mapType f)) receiver = names params receiver := by
  have hreserved : reserved (params.map (·.mapType f)) receiver = reserved params receiver := by
    simp [reserved, Function.comp_def, Param.mapType]
  rw [names, hreserved, namesFrom_mapType, names]

/-- The slots with their names. -/
def named (params : List Param) (receiver : String) : List (String × Param) :=
  (names params receiver).zip params

lemma named_mapType (f : String → String) (params : List Param) (receiver : String) :
    named (params.map (·.mapType f)) receiver =
      (named params receiver).map fun x => (x.1, x.2.mapType f) := by
  rw [named, names_mapType, List.zip_map_right, named]
  rfl

lemma map_fst_named (params : List Param) (receiver : String) :
    (named params receiver).map Prod.fst = names params receiver :=
  List.map_fst_zip (Nat.le_of_eq (length_names params receiver))

/-- The arguments of a call are the same whatever the types are. -/
lemma callArgs_mapType (f : String → String) (params : List Param) (receiver : String) :
    callArgs (params.map (·.mapType f)) receiver = callArgs params receiver := by
  have hvariadic : ∀ p : Param, (p.mapType f).isVariadic = p.isVariadic := by
    intro p
    cases hp : p.signature <;> simp [Param.isVariadic, Param.mapType, hp]
  have hnamed := named_mapType f params receiver
  unfold named at hnamed
  simp [callArgs, hnamed, Function.comp_def, hvariadic]

end Slots

/-! ## Headers -/

section Headers

variable {q : String}

/-- A slot's type is stripped, and the open type of an unresolved slot stays. -/
lemma slotType_stripsTo (hq : Naming.isIdentifier q) (p : Param) :
    StripsTo q p.slotType (p.mapType (strip · q)).slotType True := by
  cases hp : p.signature with
  | none =>
    have hopen : '.' ∉ Naming.openType.toList := by decide
    simpa [Param.slotType, Param.mapType, hp] using StripsTo.plain hq hopen
  | some t => simpa [Param.slotType, Param.mapType, hp] using StripsTo.stripped q t.rendered

lemma paramList_stripsTo (hq : Naming.isIdentifier q) (params : List Param) (receiver : String) :
    StripsTo q (Slots.paramList params receiver)
      (Slots.paramList (params.map (·.mapType (strip · q))) receiver)
      (∀ n ∈ Slots.names params receiver, ¬ Mentions q n) := by
  have hspace : isTrail " " ∧ isLead " " := by decide
  have hall := StripsTo.commaList hq fun x (_ : x ∈ Slots.named params receiver) =>
    (StripsTo.fixed hq x.1).gap hq hspace (slotType_stripsTo hq x.2)
  have hnamed := Slots.named_mapType (strip · q) params receiver
  unfold Slots.named at hnamed hall
  rw [Slots.paramList, Slots.paramList, hnamed, List.map_map]
  refine hall.congr ?_
  conv_rhs => rw [← Slots.map_fst_named, List.forall_mem_map]
  simp [Slots.named]

lemma resultClause_stripsTo (hq : Naming.isIdentifier q) (returns : List Param) :
    StripsTo q (Slots.resultClause returns)
      (Slots.resultClause (returns.map (·.mapType (strip · q)))) True := by
  cases returns with
  | nil => exact StripsTo.plain hq (by decide)
  | cons r rest =>
    cases rest with
    | nil => exact (slotType_stripsTo hq r).lead hq (by decide)
    | cons r' rest =>
      have hall := StripsTo.commaList hq fun p (_ : p ∈ r :: r' :: rest) => slotType_stripsTo hq p
      have hopening : isLead " (" := by decide
      have hclosing : isTrail ")" := by decide
      have hclause := (hall.lead hq hopening).trail hq hclosing
      simp only [Slots.resultClause, List.map_cons, List.map_map, Function.comp_def] at hclause ⊢
      exact hclause.congr (by simp)

/-- The header of a method with only its types stripped. -/
lemma header_stripsTo (hq : Naming.isIdentifier q) (m : Method) (receiver : String) :
    StripsTo q (m.header receiver) ((m.mapTypes (strip · q)).header receiver)
      (¬ Mentions q m.name ∧ ∀ n ∈ Slots.names m.params receiver, ¬ Mentions q n) := by
  have hopening : isTrail "(" ∧ isLead "(" := by decide
  have hclosing : isTrail ")" ∧ isLead ")" := by decide
  have hparams := (StripsTo.fixed hq m.name).gap hq hopening (paramList_stripsTo hq m.params receiver)
  exact (hparams.gap hq hclosing (resultClause_stripsTo hq m.returns)).congr (by simp)

lemma header_ne_empty (m : Method) (receiver : String) : m.header receiver ≠ "" := by
  intro h
  have hlist := congrArg String.toList h
  simp [Method.header] at hlist

end Headers

/-! ## Comments and calls -/

namespace Service

/-- The word in front of the full stop of the comment over a method. -/
def lastWord (name : String) : String :=
  if beginsWith "All" name then "records"
  else if name == "DeleteByID" then "deleted"
  else match afterHead? "By" name with
    | some key => key
    | none => if name == "Store" then "record" else "repository"

/-- The names of variadic parameters, which a call spreads with dots behind them. -/
def spreadNames (m : Method) : List String :=
  ((Slots.named m.params receiver).filter fun x => x.2.isVariadic).map Prod.fst

/-- The names that a method writes as they are. -/
def methodNames (m : Method) : List String :=
  m.name :: (Slots.names m.params "" ++ Slots.names m.params receiver)

/-- The words of a method that have a dot behind them. -/
def methodDotted (m : Method) : List String := lastWord m.name :: spreadNames m

section Lines

variable {q : String}

/-- A sentence about two names mentions the qualifier in one of them or before its full stop. -/
lemma mentions_sentence (hq : Naming.isIdentifier q) {between last : String}
    (hbetween : isTrail between ∧ isLead between) (hlast : isTrail last ∧ isLead last)
    (a b : String) {word tail : String} (htail : last ++ word ++ "." = tail) :
    Mentions q (a ++ between ++ b ++ tail) ↔
      Mentions q a ∨ Mentions q b ∨ Mentions q (word ++ ".") := by
  have hassoc : a ++ between ++ b ++ tail = a ++ between ++ b ++ last ++ (word ++ ".") := by
    rw [← htail]
    simp only [String.append_assoc]
  rw [hassoc, mentions_gap hq hlast, mentions_gap hq hbetween, or_assoc]

/-- A verb and an article between two names part them. -/
lemma isGap_article (verb : String)
    (hverb : ∀ a ∈ ["an", "a"], isTrail (verb ++ a ++ " ") ∧ isLead (verb ++ a ++ " "))
    (base : String) :
    isTrail (verb ++ article base ++ " ") ∧ isLead (verb ++ article base ++ " ") := by
  rcases article_eq base with h | h <;> rw [h]
  · exact hverb "an" (by simp)
  · exact hverb "a" (by simp)

/-- The comment over a method mentions the qualifier in one of its names or before the full stop. -/
lemma mentions_methodComment (hq : Naming.isIdentifier q) (name base : String) :
    Mentions q (methodComment name base) ↔
      Mentions q name ∨ Mentions q base ∨ Mentions q (lastWord name ++ ".") := by
  have hspace : isTrail " " ∧ isLead " " := by decide
  unfold methodComment lastWord
  -- all forms of the comment are a sentence about the two names, parted by words without dots
  by_cases hall : beginsWith "All" name
  · have hgets : isTrail " gets all " ∧ isLead " gets all " := by decide
    rw [if_pos hall, if_pos hall]
    exact mentions_sentence hq hgets hspace name base (by decide)
  rw [if_neg hall, if_neg hall]
  by_cases hdelete : name == "DeleteByID"
  · have hmarks := isGap_article " marks " (by decide) base
    have hrecord : isTrail " record as " ∧ isLead " record as " := by decide
    have htail : " record as " ++ "deleted" ++ "." = " record as deleted." := by decide
    rw [if_pos hdelete, if_pos hdelete, ← mentions_sentence hq hmarks hrecord name base htail]
    simp only [String.append_assoc]
  rw [if_neg hdelete, if_neg hdelete]
  cases hby : afterHead? "By" name with
  | some key =>
    have hgets : isTrail " gets " ∧ isLead " gets " := by decide
    have hrecords : isTrail " records by " ∧ isLead " records by " := by decide
    rw [← mentions_sentence hq hgets hrecords name base rfl]
    simp only [String.append_assoc]
  | none =>
    dsimp only
    by_cases hstore : name == "Store"
    · have hstores := isGap_article " stores " (by decide) base
      have htail : " " ++ "record" ++ "." = " record." := by decide
      rw [if_pos hstore, if_pos hstore, ← mentions_sentence hq hstores hspace name base htail]
      simp only [String.append_assoc]
    · have hdelegates : isTrail " delegates to the " ∧ isLead " delegates to the " := by decide
      rw [if_neg hstore, if_neg hstore]
      exact mentions_sentence hq hdelegates hspace name base (by decide)

/-- The arguments of a call mention the qualifier in a name, or in a spread name before its dots. -/
lemma mentions_callArgs (hq : Naming.isIdentifier q) (m : Method) :
    Mentions q (Slots.callArgs m.params receiver) ↔
      (∃ n ∈ Slots.names m.params receiver, Mentions q n) ∨
        ∃ n ∈ spreadNames m, Mentions q (n ++ ".") := by
  have harg : ∀ x : String × Param,
      Mentions q (if x.2.isVariadic then x.1 ++ "..." else x.1) ↔
        Mentions q x.1 ∨ x.2.isVariadic ∧ Mentions q (x.1 ++ ".") := by
    intro x
    split_ifs with hx
    · simp [hx, mentions_dots hq, mentions_dot hq]
    · simp [hx]
  have hargs : Slots.callArgs m.params receiver = Slots.commaList
      ((Slots.named m.params receiver).map fun x => if x.2.isVariadic then x.1 ++ "..." else x.1) := rfl
  rw [hargs, mentions_commaList hq, ← Slots.map_fst_named]
  simp only [spreadNames, List.mem_map, List.mem_filter, exists_exists_and_eq_and, harg, and_or_left,
    exists_or]
  simp only [and_assoc]

/-- A call mentions the qualifier in its receiver, in the name of the method or in an argument. -/
lemma mentions_call (hq : Naming.isIdentifier q) (name args : String) :
    Mentions q (receiver ++ ".repo." ++ name ++ "(" ++ args ++ ")") ↔
      (Mentions q (receiver ++ ".") ∨ MentionsAfter (some '.') q.toList name.toList) ∨
        Mentions q args := by
  have hopening : isTrail "(" ∧ isLead "(" := by decide
  have hrepo : WordText "repo" := by decide
  have hsplit : receiver ++ ".repo." ++ name = receiver ++ "." ++ ("repo." ++ name) := by
    simp only [receiver, ← String.append_assoc]
    rfl
  have hfield : MentionsAfter (some '.') q.toList ("repo." ++ name).toList ↔
      MentionsAfter (some '.') q.toList name.toList := by
    have hword := isWord_of_isIdentifier hq
    have hlist : ("repo." ++ name).toList = "repo".toList ++ '.' :: name.toList := by simp
    rw [hlist, mentionsAfter_append_cons hword.dot_notMem, closesAfter_word_iff hword hrepo]
    simp [startsName_dot, not_mentionsAfter_of_dot_notMem]
  rw [mentions_trail hq (by decide), mentions_gap hq hopening, hsplit, mentions_append_dot hq, hfield]

/-- Lines that are to stay. -/
lemma fixedLines_stripsTo (hq : Naming.isIdentifier q) {texts : List String}
    (hne : ∀ t ∈ texts, t ≠ "") :
    BlockStripsTo q (Block.ofTexts texts) (Block.ofTexts texts) (∀ t ∈ texts, ¬ Mentions q t) := by
  have hall := BlockStripsTo.lines hq (fun t (_ : t ∈ texts) => StripsTo.fixed hq t) hne hne
  rwa [List.map_id'] at hall

/-- One line that is to stay. -/
lemma fixedLine_stripsTo (hq : Naming.isIdentifier q) {text : String} (hne : text ≠ "") :
    BlockStripsTo q (Block.ofTexts [text]) (Block.ofTexts [text]) (¬ Mentions q text) :=
  (fixedLines_stripsTo hq (by simpa using hne)).congr (by simp)

/-- An interface with only the types of its methods stripped. -/
lemma interfaceBlock_stripsTo (hq : Naming.isIdentifier q) (name : String) (methods : List Method) :
    BlockStripsTo q (interfaceBlock name methods)
      (interfaceBlock name (methods.map (·.mapTypes (strip · q))))
      (¬ Mentions q name ∧ ∀ m ∈ methods,
        ¬ Mentions q m.name ∧ ∀ n ∈ Slots.names m.params "", ¬ Mentions q n) := by
  have hheader : Mentions q ("type " ++ name ++ " interface \x7b") ↔ Mentions q name := by
    rw [mentions_trail hq (by decide), mentions_lead hq (by decide)]
  have hlines := BlockStripsTo.lines hq (fun m (_ : m ∈ methods) => header_stripsTo hq m "")
    (fun m _ => header_ne_empty m "") (fun m _ => header_ne_empty _ "")
  have hall := BlockStripsTo.braces hq (StripsTo.fixed hq ("type " ++ name ++ " interface \x7b"))
    (by simp) (by simp) hlines
  rw [interfaceBlock, interfaceBlock, List.map_map]
  exact hall.congr (by rw [hheader])

/-- The line of a call stays when the call does, whether or not it returns something. -/
lemma callLine_stripsTo (hq : Naming.isIdentifier q) {call : String} (hne : call ≠ "") (b : Bool) :
    BlockStripsTo q (Block.ofTexts [if b then call else "return " ++ call])
      (Block.ofTexts [if b then call else "return " ++ call]) (¬ Mentions q call) := by
  cases b with
  | true => exact fixedLine_stripsTo hq hne
  | false =>
    have hreturn : Mentions q ("return " ++ call) ↔ Mentions q call := mentions_lead hq (by decide) _
    have hline : "return " ++ call ≠ "" := by simp
    exact (fixedLine_stripsTo hq hline).congr (not_congr hreturn)

/-- A delegating method with only the types of its slots stripped. -/
lemma delegating_stripsTo (hq : Naming.isIdentifier q) (service base : String) (m : Method) :
    BlockStripsTo q (delegating service base m) (delegating service base (m.mapTypes (strip · q)))
      (¬ Mentions q (methodComment m.name base) ∧
        (¬ Mentions q service ∧ ¬ Mentions q m.name ∧
          ∀ n ∈ Slots.names m.params receiver, ¬ Mentions q n) ∧
        ¬ Mentions q (receiver ++ ".repo." ++ m.name ++ "(" ++ Slots.callArgs m.params receiver ++
          ")")) := by
  have hcomment : Mentions q ("// " ++ methodComment m.name base) ↔
      Mentions q (methodComment m.name base) := mentions_lead hq (by decide) _
  have hreceiver : isLead ("func (" ++ receiver ++ " *") := by decide
  have hclosing : isTrail ") " ∧ isLead ") " := by decide
  have hbrace : isTrail " \x7b" := by decide
  have hheader := (((StripsTo.fixed hq service).lead hq hreceiver).gap hq hclosing
    (header_stripsTo hq m receiver)).trail hq hbrace
  have hcall : receiver ++ ".repo." ++ m.name ++ "(" ++ Slots.callArgs m.params receiver ++ ")" ≠ "" := by
    simp
  have hbody := callLine_stripsTo hq hcall m.returns.isEmpty
  have hline : "// " ++ methodComment m.name base ≠ "" := by simp
  have hall := (fixedLine_stripsTo hq hline).append hq
    (BlockStripsTo.braces hq hheader (by simp) (by simp) hbody)
  -- of the method over stripped types only the header differs
  have hname : (m.mapTypes (strip · q)).name = m.name := rfl
  have hargs := Slots.callArgs_mapType (strip · q) m.params receiver
  have hempty : (m.mapTypes (strip · q)).returns.isEmpty = m.returns.isEmpty := by
    simp [Method.mapTypes]
  have hparams : (m.mapTypes (strip · q)).params = m.params.map (·.mapType (strip · q)) := rfl
  simp only [delegating, hname, hparams, hargs, hempty]
  exact hall.congr (by rw [hcomment])

/-! ## The whole text -/

/-- A comment on a declaration mentions the qualifier in a name or in its last word. -/
lemma mentions_doc (hq : Naming.isIdentifier q) {between : String}
    (hbetween : isTrail between ∧ isLead between) (name base : String) :
    Mentions q ("// " ++ name ++ between ++ base ++ " items.") ↔
      Mentions q name ∨ Mentions q base ∨ Mentions q ("items" ++ ".") := by
  have hspace : isTrail " " ∧ isLead " " := by decide
  have htail : " " ++ "items" ++ "." = " items." := by decide
  rw [mentions_sentence hq hbetween hspace _ _ htail, mentions_lead hq (by decide)]

/-- The type of a service and its constructor, which hold no type of a slot, stay. -/
lemma typeBlock_stripsTo (hq : Naming.isIdentifier q) (service repoInterface : String) :
    BlockStripsTo q
      (Block.braces ("type " ++ service ++ " struct \x7b") (Block.ofTexts ["repo " ++ repoInterface]))
      (Block.braces ("type " ++ service ++ " struct \x7b") (Block.ofTexts ["repo " ++ repoInterface]))
      (¬ Mentions q service ∧ ¬ Mentions q repoInterface) := by
  have hheader : Mentions q ("type " ++ service ++ " struct \x7b") ↔ Mentions q service := by
    rw [mentions_trail hq (by decide), mentions_lead hq (by decide)]
  have hfield : Mentions q ("repo " ++ repoInterface) ↔ Mentions q repoInterface :=
    mentions_lead hq (by decide) _
  have hall := BlockStripsTo.braces hq (StripsTo.fixed hq ("type " ++ service ++ " struct \x7b"))
    (by simp) (by simp) (fixedLine_stripsTo hq (by simp : "repo " ++ repoInterface ≠ ""))
  exact hall.congr (by rw [hheader, hfield])

/-- In the constructor the receiver stands in front of its field. -/
lemma constructor_stripsTo (hq : Naming.isIdentifier q) (service repoInterface : String) :
    let block := Block.braces
      ("func New" ++ service ++ "(repo " ++ repoInterface ++ ") *" ++ service ++ " \x7b")
      (Block.ofTexts [receiver ++ " := new(" ++ service ++ ")", receiver ++ ".repo = repo",
        "return " ++ receiver])
    BlockStripsTo q block block (¬ Mentions q ("New" ++ service) ∧ ¬ Mentions q repoInterface ∧
      ¬ Mentions q service ∧ ¬ Mentions q (receiver ++ ".")) := by
  intro block
  have hnew : "func New" ++ service = "func " ++ ("New" ++ service) := by
    rw [← String.append_assoc]
    rfl
  have hrepo : isTrail "(repo " ∧ isLead "(repo " := by decide
  have hresult : isTrail ") *" ∧ isLead ") *" := by decide
  have hheader : Mentions q
      ("func New" ++ service ++ "(repo " ++ repoInterface ++ ") *" ++ service ++ " \x7b") ↔
      (Mentions q ("New" ++ service) ∨ Mentions q repoInterface) ∨ Mentions q service := by
    rw [mentions_trail hq (by decide), mentions_gap hq hresult, mentions_gap hq hrepo, hnew,
      mentions_lead hq (by decide)]
  have hmake : Mentions q (receiver ++ " := new(" ++ service ++ ")") ↔ Mentions q service := by
    rw [mentions_trail hq (by decide), mentions_lead hq (by decide)]
  have hfield : Mentions q (receiver ++ ".repo = repo") ↔ Mentions q (receiver ++ ".") := by
    have hsplit : receiver ++ ".repo = repo" = receiver ++ "." ++ "repo = repo" := by decide
    rw [hsplit, mentions_append_dot hq, or_iff_left (not_mentionsAfter_of_dot_notMem (by decide) _ _)]
  have hreturn : ¬ Mentions q ("return " ++ receiver) := not_mentions_of_dot_notMem (by decide) q
  have hne : ∀ t ∈ [receiver ++ " := new(" ++ service ++ ")", receiver ++ ".repo = repo",
      "return " ++ receiver], t ≠ "" := by simp [receiver]
  have hlines := fixedLines_stripsTo hq hne
  have hall := BlockStripsTo.braces hq (StripsTo.fixed hq
    ("func New" ++ service ++ "(repo " ++ repoInterface ++ ") *" ++ service ++ " \x7b"))
    (by simp) (by simp) hlines
  refine hall.congr ?_
  rw [hheader, List.forall_mem_cons, List.forall_mem_cons, List.forall_mem_singleton, hmake, hfield]
  constructor
  · rintro ⟨hnames, hservice, hdot, -⟩
    exact ⟨fun h => hnames (.inl (.inl h)), fun h => hnames (.inl (.inr h)), hservice, hdot⟩
  · rintro ⟨hfunc, hiface, hservice, hdot⟩
    exact ⟨by simp [hfunc, hiface, hservice], hservice, hdot, hreturn⟩

/-- All names that the text of a service writes as they are. -/
def writtenNames (s : ServiceMethodSet) : List String :=
  let base := s.baseName
  let service := Naming.serviceName base
  [base, service, Naming.interfaceName service, Naming.interfaceName (Naming.repositoryName base),
    "New" ++ service] ++ s.methods.flatMap methodNames

/-- All words with a dot behind them in the text of a service, its types apart. -/
def dottedWords (s : ServiceMethodSet) : List String :=
  receiver :: "items" :: s.methods.flatMap methodDotted

/-- Only the types of slots can mention the package `q`. -/
structure Undisturbed (q : String) (s : ServiceMethodSet) : Prop where
  names : ∀ n ∈ writtenNames s, ¬ Mentions q n
  words : ∀ w ∈ dottedWords s, ¬ Mentions q (w ++ ".")

/-- The comment on a declaration stays when its names and its last word do. -/
lemma docLine_stripsTo (hq : Naming.isIdentifier q) {between : String}
    (hbetween : isTrail between ∧ isLead between) (name base : String) :
    BlockStripsTo q (Block.ofTexts ["// " ++ name ++ between ++ base ++ " items."])
      (Block.ofTexts ["// " ++ name ++ between ++ base ++ " items."])
      (¬ (Mentions q name ∨ Mentions q base ∨ Mentions q ("items" ++ "."))) := by
  have hne : "// " ++ name ++ between ++ base ++ " items." ≠ "" := by simp
  exact (fixedLine_stripsTo hq hne).congr (not_congr (mentions_doc hq hbetween name base))

/-- What a method asks of the package in the interfaces and in the service, put by its names and its
words in front of dots. -/
lemma method_clear_iff (hq : Naming.isIdentifier q) {service base : String} (m : Method)
    (hservice : ¬ Mentions q service) (hbase : ¬ Mentions q base)
    (hreceiver : ¬ Mentions q (receiver ++ ".")) :
    ((¬ Mentions q m.name ∧ ∀ n ∈ Slots.names m.params "", ¬ Mentions q n) ∧
      ¬ Mentions q (methodComment m.name base) ∧
      (¬ Mentions q service ∧ ¬ Mentions q m.name ∧
        ∀ n ∈ Slots.names m.params receiver, ¬ Mentions q n) ∧
      ¬ Mentions q (receiver ++ ".repo." ++ m.name ++ "(" ++ Slots.callArgs m.params receiver ++
        ")")) ↔
    (∀ n ∈ methodNames m, ¬ Mentions q n) ∧ ∀ w ∈ methodDotted m, ¬ Mentions q (w ++ ".") := by
  rw [mentions_methodComment hq, mentions_call hq, mentions_callArgs hq, methodNames, methodDotted,
    List.forall_mem_cons, List.forall_mem_append, List.forall_mem_cons]
  constructor
  · rintro ⟨⟨hname, hspec⟩, hcomment, ⟨-, -, hparams⟩, hcall⟩
    exact ⟨⟨hname, hspec, hparams⟩, fun h => hcomment (.inr (.inr h)),
      fun w hw h => hcall (.inr (.inr ⟨w, hw, h⟩))⟩
  · rintro ⟨⟨hname, hspec, hparams⟩, hlast, hspread⟩
    refine ⟨⟨hname, hspec⟩, by simp [hname, hbase, hlast], ⟨hservice, hname, hparams⟩, ?_⟩
    rintro ((hdot | hselected) | ⟨n, hn, h⟩ | ⟨n, hn, h⟩)
    · exact hreceiver hdot
    · exact hname (hselected.of_startsName (by simp [startsName_dot]))
    · exact hparams n hn h
    · exact hspread n hn h

/-- Stripping the text of a service strips its types, and no more exactly when nothing else mentions the
package. -/
lemma ofSet_stripsTo (hq : Naming.isIdentifier q) (s : ServiceMethodSet) :
    BlockStripsTo q (ofSet s) (ofSet (s.mapTypes (strip · q))) (Undisturbed q s) := by
  have hinterface : isTrail " is the interface for " ∧ isLead " is the interface for " := by decide
  have hstorage : isTrail " represents the service for storage of " ∧
      isLead " represents the service for storage of " := by decide
  have himplements : isTrail " implements the service for " ∧
      isLead " implements the service for " := by decide
  have hmanaging : isTrail " returns the service for managing " ∧
      isLead " returns the service for managing " := by decide
  have hnew : ∀ service, "// New" ++ service = "// " ++ ("New" ++ service) := by
    intro service
    rw [← String.append_assoc]
    rfl
  have hbase : (s.mapTypes (strip · q)).baseName = s.baseName := rfl
  have hmethods : (s.mapTypes (strip · q)).methods = s.methods.map (·.mapTypes (strip · q)) := rfl
  simp only [ofSet, hbase, hmethods, hnew, List.flatMap_map]
  refine (((((((((((docLine_stripsTo hq hinterface _ _).append hq
    (interfaceBlock_stripsTo hq _ _)).append hq (.gap hq)).append hq
    (docLine_stripsTo hq hstorage _ _)).append hq
    (interfaceBlock_stripsTo hq _ _)).append hq (.gap hq)).append hq
    (docLine_stripsTo hq himplements _ _)).append hq
    (typeBlock_stripsTo hq _ _)).append hq (.gap hq)).append hq
    (docLine_stripsTo hq hmanaging _ _)).append hq
    (constructor_stripsTo hq _ _)).append hq
    (BlockStripsTo.flatMap hq fun m _ => (BlockStripsTo.gap hq).append hq
      (delegating_stripsTo hq _ _ m)) |>.congr ?_
  constructor
  · rintro ⟨⟨⟨⟨⟨⟨⟨⟨⟨⟨⟨hdoc, hiservice, hspecs⟩, -⟩, -⟩, hirepo, -⟩, -⟩, -⟩, hservice, -⟩, -⟩, -⟩,
      hnewService, -, -, hreceiver⟩, hcalls⟩
    have hbase : ¬ Mentions q s.baseName := fun h => hdoc (.inr (.inl h))
    have hitems : ¬ Mentions q ("items" ++ ".") := fun h => hdoc (.inr (.inr h))
    have hclear := fun m hm => (method_clear_iff hq m hservice hbase hreceiver).mp
      ⟨hspecs m hm, (hcalls m hm).2⟩
    refine ⟨?_, ?_⟩
    · simp only [writtenNames, List.forall_mem_append, List.forall_mem_cons, List.forall_mem_flatMap]
      exact ⟨⟨hbase, hservice, hiservice, hirepo, hnewService, by simp⟩, fun m hm => (hclear m hm).1⟩
    · simp only [dottedWords, List.forall_mem_cons, List.forall_mem_flatMap]
      exact ⟨hreceiver, hitems, fun m hm => (hclear m hm).2⟩
  · rintro ⟨hnames, hwords⟩
    simp only [writtenNames, List.forall_mem_append, List.forall_mem_cons, List.forall_mem_flatMap]
      at hnames
    simp only [dottedWords, List.forall_mem_cons, List.forall_mem_flatMap] at hwords
    obtain ⟨⟨hbase, hservice, hiservice, hirepo, hnewService, -⟩, hmethodNames⟩ := hnames
    obtain ⟨hreceiver, hitems, hmethodWords⟩ := hwords
    have hclear := fun m hm => (method_clear_iff hq m hservice hbase hreceiver).mpr
      ⟨hmethodNames m hm, hmethodWords m hm⟩
    have hspecs := fun m hm => (hclear m hm).1
    refine ⟨?_, fun m hm => ⟨trivial, (hclear m hm).2⟩⟩
    simp only [hbase, hservice, hiservice, hirepo, hnewService, hreceiver, hitems, or_self,
      not_false_eq_true, true_and, and_true, and_self]
    exact hspecs

end Lines

/-! ## Names made of words -/

/-- The names that the declarations of a service give. -/
def givenNames (s : ServiceMethodSet) : List String :=
  s.receiver :: s.methods.flatMap fun m => m.name :: m.params.map (·.name)

lemma wordText_of_mem_names {params : List Param} {receiver name : String}
    (hgiven : ∀ p ∈ params, WordText p.name) (h : name ∈ Slots.names params receiver) :
    WordText name := by
  rcases Slots.mem_names_iff.mp h with ⟨p, hp, -, rfl⟩ | ⟨i, -, -, -, k, rfl, -, -⟩
  · exact hgiven p hp
  · -- a made-up name is letters, digits and low lines
    have hdigits : WordText (toString i) := by
      intro c hc
      rw [Nat.toString_eq_ofList_toDigits, String.toList_ofList] at hc
      exact isWordChar_of_isDigit (Nat.isDigit_of_mem_toDigits (by decide) (by decide) hc)
    have hlow : WordText (String.ofList (List.replicate k '_')) := by
      intro c hc
      rw [String.toList_ofList, List.mem_replicate] at hc
      exact hc.2 ▸ isWordChar_lowLine
    exact wordText_append.mpr ⟨wordText_append.mpr ⟨by decide, hdigits⟩, hlow⟩

lemma wordText_ofList {text : String} (h : WordText text) {part : List Char}
    (hpart : part ⊆ text.toList) : WordText (String.ofList part) := by
  intro c hc
  rw [String.toList_ofList] at hc
  exact h c (hpart hc)

lemma wordText_baseName {s : ServiceMethodSet} (h : WordText s.receiver) : WordText s.baseName := by
  unfold ServiceMethodSet.baseName Naming.serviceBase? beforeTail?
  cases hcut : Naming.serviceTail.toList.isSuffixOf? s.receiver.toList with
  | none => exact h
  | some front =>
    rw [List.isSuffixOf?_eq_some_iff_append_eq] at hcut
    exact wordText_ofList h (by rw [← hcut]; exact List.subset_append_left _ _)

lemma wordText_lastWord {name : String} (h : WordText name) : WordText (lastWord name) := by
  unfold lastWord afterHead?
  split
  · decide
  split
  · decide
  cases hcut : "By".toList.isPrefixOf? name.toList with
  | none =>
    dsimp only [Option.map_none]
    split <;> decide
  | some key =>
    rw [List.isPrefixOf?_eq_some_iff_append_eq] at hcut
    exact wordText_ofList h (by rw [← hcut]; exact List.subset_append_right _ _)

/-- When the declarations give only names, nothing but the words in front of dots can be disturbed. -/
lemma undisturbed_iff {q : String} (hq : Naming.isIdentifier q) {s : ServiceMethodSet}
    (hgiven : ∀ n ∈ givenNames s, WordText n) : Undisturbed q s ↔ q ∉ dottedWords s := by
  simp only [givenNames, List.forall_mem_cons, List.forall_mem_flatMap, List.forall_mem_map] at hgiven
  obtain ⟨hreceiver, hmethods⟩ := hgiven
  have hbase := wordText_baseName hreceiver
  have hservice : WordText (Naming.serviceName s.baseName) := wordText_append.mpr ⟨hbase, by decide⟩
  have hrepo : WordText (Naming.repositoryName s.baseName) := wordText_append.mpr ⟨hbase, by decide⟩
  have hslots : ∀ m ∈ s.methods, ∀ r, ∀ n ∈ Slots.names m.params r, WordText n :=
    fun m hm r n hn => wordText_of_mem_names (hmethods m hm).2 hn
  have hwritten : ∀ n ∈ writtenNames s, WordText n := by
    simp only [writtenNames, methodNames, List.forall_mem_append, List.forall_mem_cons,
      List.forall_mem_flatMap]
    refine ⟨⟨hbase, hservice, wordText_append.mpr ⟨by decide, hservice⟩,
      wordText_append.mpr ⟨by decide, hrepo⟩, wordText_append.mpr ⟨by decide, hservice⟩, by simp⟩, ?_⟩
    exact fun m hm => ⟨(hmethods m hm).1, hslots m hm "", hslots m hm receiver⟩
  have hdotted : ∀ w ∈ dottedWords s, WordText w := by
    simp only [dottedWords, methodDotted, List.forall_mem_cons, List.forall_mem_flatMap]
    refine ⟨by decide, by decide, fun m hm => ⟨wordText_lastWord (hmethods m hm).1, ?_⟩⟩
    intro w hw
    obtain ⟨x, hx, rfl⟩ := List.mem_map.mp hw
    refine hslots m hm receiver x.1 ?_
    rw [← Slots.map_fst_named]
    exact List.mem_map.mpr ⟨x, (List.mem_filter.mp hx).1, rfl⟩
  constructor
  · intro h hmem
    exact h.words q hmem ((mentions_word_dot hq (hdotted q hmem)).mpr rfl)
  · intro hnot
    refine ⟨fun n hn => (hwritten n hn).not_mentions q, fun w hw hmention => hnot ?_⟩
    exact (mentions_word_dot hq (hdotted w hw)).mp hmention ▸ hw

/-! ## The types of a service and the rest of its text -/

/-- For every valid configuration and every service, stripping the package from the whole text strips the
types and nothing else exactly when no name that is written as it is mentions the package and no word in
front of a dot does. Where the declarations give only names, that is to say that the package is none of
the words in front of dots. -/
theorem text_eq_render_mapTypes_iff (c : Config) (hvalid : c.validate = .ok ())
    (s : ServiceMethodSet) :
    (text s c.naming.domainPackage =
        (ofSet (s.mapTypes (strip · c.naming.domainPackage))).render ↔
      Undisturbed c.naming.domainPackage s) ∧
    ((∀ n ∈ givenNames s, WordText n) →
      (Undisturbed c.naming.domainPackage s ↔ c.naming.domainPackage ∉ dottedWords s)) := by
  have hq := (Config.isIdentifier_of_validate hvalid).1
  exact ⟨(ofSet_stripsTo hq s).render.eq_iff, undisturbed_iff hq⟩

/-- In a package that none of its words is, the service loses the package in its types alone. -/
theorem text_account_in_domain :
    let s : ServiceMethodSet := ⟨"AccountService", [⟨"Find",
      [⟨"ids", some (.wrap .variadic (.value "string"))⟩],
      [⟨"", some (.wrap .pointer (.value "domain.Account"))⟩, ⟨"", some (.value "error")⟩]⟩]⟩
    ({} : Config).validate = .ok () ∧
      text s "domain" = (ofSet (s.mapTypes (strip · "domain"))).render := by
  intro s
  have hboth := text_eq_render_mapTypes_iff {} (by decide) s
  exact ⟨by decide, hboth.1.mpr ((hboth.2 (by decide)).mpr (by decide))⟩

/-- In a package that is called like the receiver, the call loses its receiver. -/
theorem text_account_in_s :
    let s : ServiceMethodSet := ⟨"AccountService", [⟨"Find", [⟨"id", some (.value "string")⟩],
      [⟨"", some (.value "error")⟩]⟩]⟩
    let c : Config := { naming := { domainPackage := "s" } }
    c.validate = .ok () ∧
      text s c.naming.domainPackage ≠
        (ofSet (s.mapTypes (strip · c.naming.domainPackage))).render := by
  intro s c
  refine ⟨by decide, fun heq => ?_⟩
  have hs : Naming.isIdentifier "s" := by decide
  have hclear := (ofSet_stripsTo hs s).render.eq_iff.mp heq
  exact hclear.words "s" (by simp [dottedWords, receiver]) ((mentions_word_dot hs (by decide)).mpr rfl)

end Service

end DeclGen
