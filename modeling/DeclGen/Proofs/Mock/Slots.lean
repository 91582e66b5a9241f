import DeclGen.Proofs.Mock.Members
import DeclGen.Proofs.Slots.Headers

/-!
# Slots in a mock

The text of a mock is read back as its callback fields, each with the header of its type, and as its forwarding
methods, each with its header, what it passes to the callback and the zero values that it returns without one.
For an interface that was read all of them have the slots and the results of the declared method, in order
(`Mock.keepsSlots`).
-/

namespace DeclGen

open Source Text Slots

namespace Mock

/-! ## Reading mocks -/

/-- The name of a field and the header of its type. -/
def readField (line : String) : String × Header :=
  (String.ofList (line.toList.takeWhile (· != ' ')),
    readHeader (String.ofList ((line.toList.dropWhile (· != ' ')).dropWhile (· == ' '))))

/-- The callbacks of a mock: the fields in the struct of that name. -/
def readCallbacks (mock : String) (ls : List String) : List (String × Header) :=
  (paragraphs ls).flatMap fun
    | _ :: head :: body => if head = structHeader mock then body.dropLast.map readField else []
    | _ => []

/-- A method that forwards: its header, what it passes on and what it returns otherwise. -/
structure Forwarding where
  header : Header
  arguments : List (String × Bool)
  zeros : List String
deriving DecidableEq, Repr

/-- The values that are returned behind the first brace that closes. -/
def readZeros (body : List String) : List String :=
  ((body.dropWhile (· != "\x7d")).tail.head?.bind (afterHead? "return ")).elim [] (partsOf ·.toList)

/-- The method of a mock that forwards: a header, a condition and a call stand on its first lines. -/
def forwarding? (mock : String) : List String → Option Forwarding
  | head :: _ :: call :: rest =>
    ((afterHead? (methodHead mock) head).bind (beforeTail? " \x7b")).map fun header =>
      ⟨readHeader header, readCall call, readZeros rest⟩
  | _ => none

/-- The methods of a mock that forward. -/
def readForwardings (mock : String) (ls : List String) : List Forwarding :=
  (paragraphs ls).filterMap (forwarding? mock)

/-! ## The paragraphs of a mock -/

/-- The lines of the struct of a mock. -/
def structLines (i : Interface) : List String :=
  ("// " ++ Naming.mockName i.name ++ " is a configurable stand-in for " ++ i.package ++ "." ++ i.name ++ ".") ::
    structHeader (Naming.mockName i.name) :: (alignedFields (callbacks i) ++ ["\x7d"])

section Lines

variable {i : Interface} {m : Method}

lemma texts_ofInterface (i : Interface) :
    (ofInterface i).texts = structLines i ++
      ((i.methods.map fun m => (forwarding (Naming.mockName i.name) m).texts) ++
        [(reset (Naming.mockName i.name) i).texts]).flatMap ("" :: ·) := by
  simp [ofInterface, structLines, structHeader, List.flatMap_map]

/-- A field is read back as its name and the header of its type. -/
lemma readField_aligned {name type : String} (hname : ' ' ∉ name.toList) (htype : type.toList.head? ≠ some ' ')
    (width : Nat) : readField (padTo width name ++ " " ++ type) = (name, readHeader type) := by
  have hlist : (padTo width name ++ " " ++ type).toList =
      name.toList ++ ' ' :: (List.replicate (width - name.length) ' ' ++ type.toList) := by
    rw [padTo, ← List.cons_append, ← List.replicate_succ, List.replicate_succ']
    simp
  have hspaces : ∀ n, (List.replicate n ' ' ++ type.toList).dropWhile (· == ' ') = type.toList := by
    intro n
    rw [List.dropWhile_append_of_pos fun c hc => by simpa using (List.mem_replicate.mp hc).2]
    cases hchars : type.toList with
    | nil => rfl
    | cons c rest =>
      exact List.dropWhile_cons_of_neg (by simpa [hchars] using htype)
  rw [readField, hlist, takeWhile_ne_append, takeWhile_ne_of_notMem hname, dropWhile_ne_append hname,
    ← List.cons_append, ← List.replicate_succ, hspaces, String.ofList_toList, String.ofList_toList]

/-- The call of a callback. -/
def callLine (m : Method) : String :=
  receiver ++ "." ++ Naming.callbackName m.name ++ "(" ++ callArgs m.params receiver ++ ")"

lemma texts_forwarding (mock : String) (m : Method) : (forwarding mock m).texts =
    (methodHead mock ++ m.header receiver ++ " \x7b") ::
      ("if " ++ receiver ++ "." ++ Naming.callbackName m.name ++ " != nil \x7b") ::
      if m.returns = [] then [callLine m, "return", "\x7d", "\x7d"]
      else ["return " ++ callLine m, "\x7d", "return " ++ zeroReturns m.returns, "\x7d"] := by
  by_cases hreturns : m.returns = []
  · simp [forwarding, methodHead, callLine, hreturns, String.append_assoc]
  · simp [forwarding, methodHead, callLine, hreturns, String.append_assoc]

lemma texts_reset (mock : String) (i : Interface) : (reset mock i).texts =
    "// ResetMock clears every callback." :: (methodHead mock ++ "ResetMock() \x7b") ::
      (i.methods.map fun m => receiver ++ "." ++ Naming.callbackName m.name ++ " = nil") ++ ["\x7d"] := by
  simp [reset, methodHead, String.append_assoc]

section Readable

variable (h : m.IsReadable)
include h

/-- A forwarding method is read back with the slots of the method. -/
lemma forwarding?_texts (mock : String) : forwarding? mock (forwarding mock m).texts = some
    ⟨m.heading m.name receiver, m.passed receiver, m.returns.map (·.zeroValue)⟩ := by
  have hcallback : '(' ∉ (receiver ++ "." ++ Naming.callbackName m.name).toList := by
    have hname := isUnparted_of_isName (Naming.isName_callbackName h.name) '(' (by decide)
    simp [receiver, hname]
  have hcall := h.readCall_call hcallback receiver
  have hzeros : ∀ part ∈ m.returns.map (·.zeroValue), IsPart part := by
    rw [List.forall_mem_map]
    exact fun p hp => (isPart_zeroValue (h.returns p hp)).1
  have hhead : (afterHead? (methodHead mock) (methodHead mock ++ m.header receiver ++ " \x7b")).bind
      (beforeTail? " \x7b") = some (m.header receiver) := by
    rw [afterHead?_eq_some_iff.mpr (String.append_assoc ..), Option.bind_some, beforeTail?_eq_some_iff]
  rw [texts_forwarding, ← h.readHeader_header receiver, ← hcall]
  by_cases hreturns : m.returns = []
  · rw [if_pos hreturns, forwarding?, hhead, hreturns]
    rfl
  · rw [if_neg hreturns, forwarding?, hhead, readCall_return]
    have hread : readZeros ["\x7d", "return " ++ zeroReturns m.returns, "\x7d"] =
        m.returns.map (·.zeroValue) := by
      have hdrop : (["\x7d", "return " ++ zeroReturns m.returns, "\x7d"].dropWhile (· != "\x7d")) =
          ["\x7d", "return " ++ zeroReturns m.returns, "\x7d"] :=
        List.dropWhile_cons_of_neg (by decide)
      rw [readZeros, hdrop, List.tail_cons, List.head?_cons, Option.bind_some,
        afterHead?_eq_some_iff.mpr rfl]
      exact partsOf_commaList hzeros
    rw [hread]
    rfl

/-- Something stands on every line of a forwarding method. -/
lemma isFilled_forwarding {mock : String} (hmock : '\n' ∉ mock.toList) :
    ∀ t ∈ (forwarding mock m).texts, IsFilled t := by
  have hheader : '\n' ∉ (m.header "m").toList := (h.newLine_notMem_header "m").1
  have harguments : '\n' ∉ (callArgs m.params "m").toList := h.notMem_callArgs (by decide) "m"
  have hcallback := isUnparted_of_isName (Naming.isName_callbackName h.name) '\n' (by decide)
  have hcall : '\n' ∉ (callLine m).toList := by simp [callLine, receiver, hcallback, harguments]
  have hzeros : '\n' ∉ (zeroReturns m.returns).toList := by
    apply notMem_commaList (by decide) (by decide)
    rw [List.forall_mem_map]
    exact fun p hp => (isPart_zeroValue (h.returns p hp)).2
  rw [texts_forwarding]
  intro t ht
  rw [List.mem_cons, List.mem_cons] at ht
  obtain rfl | rfl | ht := ht
  · exact ⟨by simp [methodHead, receiver, hmock, hheader], 'f', by decide, by simp [methodHead]⟩
  · exact ⟨by simp [receiver, hcallback], 'i', by decide, by simp⟩
  · split at ht
    · simp only [List.mem_cons, List.not_mem_nil, or_false] at ht
      obtain rfl | rfl | rfl | rfl := ht
      · exact ⟨hcall, 'm', by decide, by simp [callLine, receiver]⟩
      · exact ⟨by decide, 'r', by decide, by decide⟩
      · exact ⟨by decide, '\x7d', by decide, by decide⟩
      · exact ⟨by decide, '\x7d', by decide, by decide⟩
    · simp only [List.mem_cons, List.not_mem_nil, or_false] at ht
      obtain rfl | rfl | rfl | rfl := ht
      · exact ⟨by simp [hcall], 'r', by decide, by simp⟩
      · exact ⟨by decide, '\x7d', by decide, by decide⟩
      · exact ⟨by simp [hzeros], 'r', by decide, by simp⟩
      · exact ⟨by decide, '\x7d', by decide, by decide⟩

end Readable

end Lines

/-! ## What is read -/

section Reading

lemma newLine_notMem_mockName {name : String} (h : IsName name) : '\n' ∉ (Naming.mockName name).toList := by
  have hname := isUnparted_of_isName h '\n' (by decide)
  simp [Naming.mockName, Naming.mockHead, hname]

variable {i : Interface} (hname : IsName i.name) (hmethods : ∀ m ∈ i.methods, m.IsReadable)
include hname hmethods

lemma isFilled_structLines (hpackage : IsName i.package) : ∀ t ∈ structLines i, IsFilled t := by
  have hmock := newLine_notMem_mockName hname
  have hinterface := isUnparted_of_isName hname '\n' (by decide)
  have hfree := isUnparted_of_isName hpackage '\n' (by decide)
  intro t ht
  rw [structLines, List.mem_cons, List.mem_cons, List.mem_append, List.mem_singleton] at ht
  obtain rfl | rfl | ht | rfl := ht
  · exact ⟨by simp [hmock, hfree, hinterface], '/', by decide, by simp⟩
  · exact ⟨by simp [structHeader, hmock], 't', by decide, by simp [structHeader]⟩
  · obtain ⟨pair, hpair, rfl⟩ := List.mem_map.mp ht
    obtain ⟨m, hm, rfl⟩ := List.mem_map.mp hpair
    have hcallback := Naming.isName_callbackName (hmethods m hm).name
    have hline := isUnparted_of_isName hcallback '\n' (by decide)
    obtain ⟨c, rest, hlist, hstart, -⟩ := hcallback.start
    refine ⟨?_, c, ?_, ?_⟩
    · simp [padTo, List.mem_replicate, hline, ((hmethods m hm).newLine_notMem_header "").2]
    · rintro rfl
      exact absurd hstart (by decide)
    · simp [padTo, hlist]
  · exact ⟨by decide, '\x7d', by decide, by decide⟩

lemma isFilled_reset : ∀ t ∈ (reset (Naming.mockName i.name) i).texts, IsFilled t := by
  have hmock := newLine_notMem_mockName hname
  rw [texts_reset]
  intro t ht
  simp only [List.mem_append, List.mem_cons, List.mem_map, List.not_mem_nil, or_false] at ht
  obtain (rfl | rfl | ⟨m, hm, rfl⟩) | rfl := ht
  · exact ⟨by decide, '/', by decide, by decide⟩
  · exact ⟨by simp [methodHead, receiver, hmock], 'f', by decide, by simp [methodHead]⟩
  · have hcallback := isUnparted_of_isName (Naming.isName_callbackName (hmethods m hm).name) '\n' (by decide)
    exact ⟨by simp [receiver, hcallback], 'm', by decide, by simp [receiver]⟩
  · exact ⟨by decide, '\x7d', by decide, by decide⟩

variable (hpackage : IsName i.package)
include hpackage

/-- A mock is read back as the paragraph of its struct, one for each method, and that of the method that clears
the callbacks. -/
lemma paragraphs_ofInterface : paragraphs (readLines (ofInterface i).render) =
    structLines i :: ((i.methods.map fun m => (forwarding (Naming.mockName i.name) m).texts) ++
      [(reset (Naming.mockName i.name) i).texts] ++ [[]]) := by
  apply paragraphs_readLines_render (texts_ofInterface i)
  simp only [List.forall_mem_cons, List.forall_mem_append, List.forall_mem_map]
  exact ⟨isFilled_structLines hname hmethods hpackage,
    fun m hm => isFilled_forwarding (hmethods m hm) (newLine_notMem_mockName hname),
    isFilled_reset hname hmethods, by simp⟩

/-- The callbacks of a mock are read back with the headers of their types. -/
lemma readCallbacks_ofInterface :
    readCallbacks (Naming.mockName i.name) (readLines (ofInterface i).render) =
      i.methods.map fun m => (Naming.callbackName m.name, readHeader m.funcType) := by
  -- the second line of any other paragraph is none that opens a struct
  have hother : ∀ head : Char, head ≠ 't' → ∀ line : String, line.toList.head? = some head →
      line ≠ structHeader (Naming.mockName i.name) := by
    rintro head hhead line hline rfl
    have ht : (structHeader (Naming.mockName i.name)).toList.head? = some 't' := by simp [structHeader]
    exact hhead (Option.some.inj (hline.symm.trans ht))
  rw [readCallbacks, paragraphs_ofInterface hname hmethods hpackage, List.append_assoc, List.flatMap_cons,
    List.flatMap_append, List.flatMap_eq_nil_iff.mpr ?_, List.nil_append, List.flatMap_eq_nil_iff.mpr ?_,
    List.append_nil]
  · rw [structLines]
    dsimp only
    rw [if_pos rfl, List.dropLast_concat, alignedFields, callbacks, List.map_map, List.map_map]
    apply List.map_congr_left
    intro m hm
    have hcallback := isUnparted_of_isName (Naming.isName_callbackName (hmethods m hm).name) ' ' (by decide)
    exact readField_aligned hcallback (by simp [Method.funcType]) _
  · rw [texts_reset]
    simp [hother 'f' (by decide) (methodHead (Naming.mockName i.name) ++ "ResetMock() \x7b") (by simp [methodHead])]
  · rw [List.forall_mem_map]
    intro m _
    rw [texts_forwarding]
    dsimp only
    rw [if_neg (hother 'i' (by decide) _ (by simp))]

/-- The forwarding methods of a mock are read back one by one. -/
lemma readForwardings_ofInterface :
    readForwardings (Naming.mockName i.name) (readLines (ofInterface i).render) =
      i.methods.map fun m =>
        ⟨m.heading m.name receiver, m.passed receiver, m.returns.map (·.zeroValue)⟩ := by
  -- a paragraph that begins with a comment is no method
  have hcomment : ∀ (line : String) (rest : List String), line.toList.head? = some '/' →
      forwarding? (Naming.mockName i.name) (line :: rest) = none := by
    intro line rest hline
    have hnone : afterHead? (methodHead (Naming.mockName i.name)) line = none := by
      rw [Option.eq_none_iff_forall_ne_some]
      intro behind hbehind
      rw [afterHead?_eq_some_iff.mp hbehind] at hline
      simp [methodHead] at hline
    unfold forwarding?
    split
    · next heq =>
      rw [← (List.cons.inj heq).1, hnone]
      rfl
    · rfl
  rw [readForwardings, paragraphs_ofInterface hname hmethods hpackage, structLines, List.append_assoc,
    List.filterMap_cons_none (hcomment _ _ (by simp)), List.filterMap_append, List.filterMap_map, texts_reset,
    List.cons_append, List.cons_append, List.cons_append, List.filterMap_cons_none (hcomment _ _ (by simp)),
    List.nil_append]
  have hempty : List.filterMap (forwarding? (Naming.mockName i.name)) [[]] = [] := rfl
  rw [hempty, List.append_nil, ← List.filterMap_eq_map]
  apply List.filterMap_congr
  intro m hm
  exact forwarding?_texts (hmethods m hm) _

end Reading

/-! ## Slots of a declared interface -/

/-- The mock keeps the slots of every declared method, in order: in the type of its callback, and in the
forwarding method with what is passed on there and with the zero values. -/
structure KeepsSlots (pkg : String) (d : InterfaceDecl) (ls : List String) : Prop where
  callbacks : List.Forall₂ (fun spec callback => callback.1 = Naming.callbackName spec.name ∧
      callback.2.Fits pkg "" spec.signature)
    d.methods (readCallbacks (Naming.mockName d.name) ls)
  forwardings : List.Forall₂ (fun spec f => f.header.name = spec.name ∧
      f.header.Fits pkg receiver spec.signature ∧ f.header.PassesOn pkg spec.signature f.arguments ∧
      f.zeros = (declaredSlots spec.signature.results).map fun slot => zeroText (slot.2.resolveResult pkg))
    d.methods (readForwardings (Naming.mockName d.name) ls)

/-- The mock of an interface that was read keeps the slots of its methods. -/
lemma keepsSlots {pkg : String} {d : InterfaceDecl} (hpkg : IsName pkg) (hname : IsName d.name)
    (hmethods : ∀ spec ∈ d.methods, spec.WellNamed) :
    KeepsSlots pkg d (readLines (ofInterface (d.built pkg)).render) := by
  have hreadable : ∀ spec ∈ d.methods, (spec.signature.method pkg spec.name).IsReadable :=
    fun spec hspec => (realizes_method spec.name spec.signature).isReadable (hmethods spec hspec).1
      (hmethods spec hspec).2 (isUnparted_of_isName hpkg)
  have hbuilt : ∀ m ∈ (d.built pkg).methods, m.IsReadable := List.forall_mem_map.mpr hreadable
  constructor
  · rw [show Naming.mockName d.name = Naming.mockName (d.built pkg).name from rfl,
      readCallbacks_ofInterface hname hbuilt hpkg, List.forall₂_map_right_iff, InterfaceDecl.built,
      List.forall₂_map_right_iff, List.forall₂_same]
    intro spec hspec
    refine ⟨rfl, ?_⟩
    rw [(hreadable spec hspec).readHeader_funcType]
    exact (realizes_method spec.name spec.signature).fits "func" ""
  · rw [show Naming.mockName d.name = Naming.mockName (d.built pkg).name from rfl,
      readForwardings_ofInterface hname hbuilt hpkg, List.forall₂_map_right_iff, InterfaceDecl.built,
      List.forall₂_map_right_iff, List.forall₂_same]
    intro spec _
    have hrealizes : (spec.signature.method pkg spec.name).Realizes pkg spec.name spec.signature :=
      realizes_method spec.name spec.signature
    exact ⟨rfl, hrealizes.fits _ receiver, hrealizes.passesOn _ receiver, hrealizes.zeroValues⟩

end Mock

end DeclGen
