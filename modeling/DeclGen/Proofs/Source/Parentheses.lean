import DeclGen.Proofs.Source.Parts
import Mathlib.Algebra.Order.BigOperators.Group.List
import Mathlib.Algebra.Order.Group.Nat

/-!
# Parentheses around types

Two texts whose trees differ only in the parentheses around types declare the same, but for the receivers of
methods. Everywhere else `TypeTerm.expr` forgets parentheses; a receiver is only recognised as a name with
or without a star if it has none, and else its method is left out (`PartTerm.part_eq`). So the texts are
read alike exactly when parentheses stand around no such receiver (`SourceFile.parse_unwrapped`). That types
may be put into parentheses is for the grammar to say: rows of tokens with parentheses around types are read
as such trees (`Source.FileLaidOut.trees?_eq`).
-/

namespace DeclGen

open Source

namespace Source

/-! ## Types without their parentheses -/

/-- The type without its parentheses. -/
def TypeTerm.unwrap : TypeTerm → TypeTerm
  | pointer t => .pointer t.unwrap
  | slice t => .slice t.unwrap
  | parenthesised t => t.unwrap
  | t => t

/-- Parentheses around a type declare nothing. -/
@[simp] lemma TypeTerm.expr_unwrap (t : TypeTerm) : t.unwrap.expr = t.expr := by
  induction t with
  | pointer t ih => exact congrArg TypeExpr.pointer ih
  | slice t ih => exact congrArg TypeExpr.slice ih
  | parenthesised t ih => exact ih
  | _ => rfl

/-- The group without the parentheses of its type. -/
def ParamGroup.unwrap (g : ParamGroup) : ParamGroup := { g with type := g.type.unwrap }

@[simp] lemma ParamGroup.decl_unwrap (g : ParamGroup) : g.unwrap.decl = g.decl := by
  simp [unwrap, decl]

/-- The signature without the parentheses of its types. -/
def SignatureTerm.unwrap (g : SignatureTerm) : SignatureTerm :=
  ⟨g.params.map (·.unwrap), g.results.map (·.unwrap)⟩

@[simp] lemma SignatureTerm.decl_unwrap (g : SignatureTerm) : g.unwrap.decl = g.decl := by
  simp [unwrap, decl, Function.comp_def]

/-- The fields without the parentheses of their type. -/
def FieldTerm.unwrap (f : FieldTerm) : FieldTerm := { f with type := f.type.unwrap }

@[simp] lemma FieldTerm.decl_unwrap (f : FieldTerm) : f.unwrap.decl = f.decl := by
  simp [unwrap, decl]

/-- The method without the parentheses of its types. -/
def MethodTerm.unwrap (m : MethodTerm) : MethodTerm := { m with signature := m.signature.unwrap }

@[simp] lemma MethodTerm.decl_unwrap (m : MethodTerm) : m.unwrap.decl = m.decl := by
  simp [unwrap, decl]

/-- The specification without the parentheses of its types. -/
def SpecTerm.unwrap : SpecTerm → SpecTerm
  | struct name fields => .struct name (fields.map (·.unwrap))
  | interface name elements => .interface name (elements.map (·.map (·.unwrap)))
  | other => .other

@[simp] lemma SpecTerm.declarations_unwrap (p : SpecTerm) : p.unwrap.declarations = p.declarations := by
  cases p with
  | struct name fields => simp [unwrap, declarations, Function.comp_def]
  | interface name elements =>
    have helements : ∀ m : Option MethodTerm, (m.map (·.unwrap)).map (·.decl) = m.map (·.decl) := by
      intro m
      cases m with
      | none => rfl
      | some m => simp
    simp [unwrap, declarations, List.filterMap_map, helements]
  | other => rfl

/-- The part without the parentheses of its types. -/
def PartTerm.unwrap : PartTerm → PartTerm
  | clause package => .clause package
  | types specs => .types (specs.map (·.unwrap))
  | method receiver m => .method (receiver.map (·.unwrap)) m.unwrap
  | function m => .function m.unwrap
  | other => .other

/-! ## Receivers -/

/-- The type of a receiver that is recognised: a name with or without a star. -/
def TypeTerm.isReceiver : TypeTerm → Bool
  | name _ | pointer (name _) => true
  | _ => false

/-- The type of a receiver that is not recognised, but would be without its parentheses. -/
def TypeTerm.hidesReceiver (t : TypeTerm) : Bool := t.unwrap.isReceiver && t.unwrap != t

/-- A method whose receiver is not recognised because of the parentheses around its type. -/
def PartTerm.hidesReceiver : PartTerm → Bool
  | method receiver _ => (receiver.find? (!·.variadic)).any (·.type.hidesReceiver)
  | _ => false

lemma TypeTerm.unwrap_of_isReceiver {t : TypeTerm} (h : t.isReceiver) : t.unwrap = t := by
  cases t with
  | name id => rfl
  | pointer t =>
    cases t with
    | name id => rfl
    | _ => exact absurd h Bool.false_ne_true
  | _ => exact absurd h Bool.false_ne_true

/-- There is a receiver when the type of the first group that is not variadic is one. -/
lemma isSome_receiver? {groups : List ParamGroup} {g : ParamGroup}
    (hg : groups.find? (!·.variadic) = some g) : (receiver? groups).isSome = g.type.isReceiver := by
  obtain ⟨names, variadic, t⟩ := g
  unfold receiver?
  rw [hg]
  cases t with
  | pointer t => cases t <;> rfl
  | _ => rfl

lemma receiver?_eq_none {groups : List ParamGroup} {g : ParamGroup}
    (hg : groups.find? (!·.variadic) = some g) (h : g.type.isReceiver = false) :
    receiver? groups = none := by
  rwa [← isSome_receiver? hg, Option.isSome_eq_false_iff, Option.isNone_iff_eq_none] at h

/-- A receiver is that of its type without parentheses, unless they hide it. -/
lemma receiver?_eq (groups : List ParamGroup) : receiver? groups =
    if (groups.find? (!·.variadic)).any (·.type.hidesReceiver) then none
    else receiver? (groups.map (·.unwrap)) := by
  have hmap : (groups.map (·.unwrap)).find? (!·.variadic) =
      (groups.find? (!·.variadic)).map (·.unwrap) := List.find?_map
  cases hg : groups.find? (!·.variadic) with
  | none => simp [receiver?, hmap, hg]
  | some g =>
    rw [hg, Option.map_some] at hmap
    show _ = if g.type.hidesReceiver then none else _
    by_cases hplain : g.type.isReceiver
    · have hunwrap : g.unwrap = g := by
        rw [ParamGroup.unwrap, TypeTerm.unwrap_of_isReceiver hplain]
      have hshown : g.type.hidesReceiver = false := by
        simp [TypeTerm.hidesReceiver, TypeTerm.unwrap_of_isReceiver hplain]
      rw [hshown]
      unfold receiver?
      rw [hg, hmap, hunwrap]
      rfl
    · have hother : g.type.isReceiver = false := by simpa using hplain
      rw [receiver?_eq_none hg hother]
      split
      · rfl
      · rename_i hshown
        -- without parentheses the type is no receiver either, or they would hide it
        refine (receiver?_eq_none hmap ?_).symm
        by_contra hreceiver
        refine hshown ?_
        have hne : g.type.unwrap ≠ g.type := by
          intro heq
          exact hplain (by simpa [ParamGroup.unwrap, heq] using hreceiver)
        simpa [TypeTerm.hidesReceiver, hne, ParamGroup.unwrap] using hreceiver

namespace PartTerm

/-- A part declares what it does without parentheses, but for a method whose receiver they hide. -/
theorem part_eq (p : PartTerm) : p.part = if p.hidesReceiver then {} else p.unwrap.part := by
  cases p with
  | clause package => rfl
  | types specs => simp [part, unwrap, hidesReceiver, List.flatMap_map]
  | method receiver m =>
    rw [part, receiver?_eq]
    show _ = if (receiver.find? (!·.variadic)).any (·.type.hidesReceiver) then _ else _
    split
    · rfl
    · simp [part, unwrap, MethodTerm.unwrap]
  | function m => simp [part, unwrap, hidesReceiver, MethodTerm.unwrap]
  | other => rfl

/-- Parentheses have no part in the package clause. -/
lemma package_part (p : PartTerm) : p.part.package = p.unwrap.part.package := by
  cases p <;> rfl

lemma declarations_part (p : PartTerm) :
    p.part.declarations = if p.hidesReceiver then [] else p.unwrap.part.declarations := by
  rw [part_eq]
  split <;> rfl

/-- Without its parentheses a hidden receiver has its method. -/
lemma declarations_unwrap_ne_nil {p : PartTerm} (h : p.hidesReceiver) :
    p.unwrap.part.declarations ≠ [] := by
  cases p with
  | method receiver m =>
    obtain ⟨g, hg, hhides⟩ := (Option.any_eq_true _ _).mp h
    have hreceiver : g.unwrap.type.isReceiver := (Bool.and_eq_true_iff.mp hhides).1
    have hfind : (receiver.map (·.unwrap)).find? (!·.variadic) = some g.unwrap := by
      rw [List.find?_map]
      exact congrArg (Option.map _) hg
    obtain ⟨r, hr⟩ := Option.isSome_iff_exists.mp ((isSome_receiver? hfind).trans hreceiver)
    simp [part, unwrap, hr]
  | _ => exact absurd h Bool.false_ne_true

/-- What parts declare is what those without a hidden receiver declare without parentheses. -/
lemma declarations_parts (ps : List PartTerm) : (ps.map (·.part)).flatMap (·.declarations) =
    (ps.filter (!·.hidesReceiver)).flatMap (·.unwrap.part.declarations) := by
  induction ps with
  | nil => rfl
  | cons p ps ih =>
    rw [List.map_cons, List.flatMap_cons, ih, declarations_part]
    cases hp : p.hidesReceiver <;> simp [hp]

/-- Where a receiver is hidden some declaration is missing. -/
lemma declarations_parts_eq_iff (ps : List PartTerm) : (ps.map (·.part)).flatMap (·.declarations) =
    ((ps.map (·.unwrap)).map (·.part)).flatMap (·.declarations) ↔
      ∀ p ∈ ps, p.hidesReceiver = false := by
  constructor
  · intro heq
    by_contra hsome
    push Not at hsome
    obtain ⟨p, hp, hhides⟩ := hsome
    -- no part declares more than without parentheses, and the hidden one declares less
    have hle : ∀ q ∈ ps, q.part.declarations.length ≤ q.unwrap.part.declarations.length := by
      intro q _
      rw [declarations_part]
      split <;> simp
    have hlt : p.part.declarations.length < p.unwrap.part.declarations.length := by
      rw [declarations_part, if_pos (by simpa using hhides), List.length_nil]
      exact List.length_pos_iff.mpr (declarations_unwrap_ne_nil (by simpa using hhides))
    have hsum := List.sum_lt_sum _ _ hle ⟨p, hp, hlt⟩
    have hlength := congrArg List.length heq
    simp only [List.length_flatMap, List.map_map] at hlength
    exact absurd hlength (Nat.ne_of_lt hsum)
  · intro hnone
    rw [List.flatMap_map, List.flatMap_map, List.flatMap_map]
    refine List.flatMap_congr fun p hp => ?_
    rw [declarations_part, hnone p hp]
    rfl

/-- What parts add to a file is settled by the parts without parentheses and the receivers that are hidden. -/
lemma map_part (ps : List PartTerm) : ps.map (·.part) =
    List.zipWith (fun (hidden : Bool) (p : PartTerm) => if hidden then {} else p.part)
      (ps.map (·.hidesReceiver)) (ps.map (·.unwrap)) := by
  rw [List.zipWith_map, List.zipWith_self]
  exact List.map_congr_left fun p _ => p.part_eq

/-- Parentheses have no part in the package clauses. -/
lemma packages_parts (ps : List PartTerm) : (ps.map (·.part)).filterMap (·.package) =
    ((ps.map (·.unwrap)).map (·.part)).filterMap (·.package) := by
  simp only [List.filterMap_map]
  exact congrArg (List.filterMap · ps) (funext package_part)

end PartTerm

lemma fileOf_eq_ok {ps : List Part} {f : SourceFile} : fileOf ps = .ok f ↔
    (ps.filterMap (·.package)).getLast? = some f.package ∧
      ps.flatMap (·.declarations) = f.declarations := by
  obtain ⟨package, ds⟩ := f
  unfold fileOf
  split
  · rename_i hnone
    simp [hnone]
  · rename_i last hlast
    simp [hlast]

end Source

namespace SourceFile

/-- An accepted text has trees, and each text declares the same whose trees differ from these only in the
parentheses around types, but for the methods whose receivers they hide. So it is read as the same file if
it hides the receivers that are hidden already; where none was, exactly if it hides none. -/
theorem parse_unwrapped [ErrorRecovery] {source : String} {f : SourceFile} (haccepted : parse source = .ok f) :
    ∃ ps, trees? source = some ps ∧
      ∀ (source' : String) (qs : List PartTerm), trees? source' = some qs →
        qs.map (·.unwrap) = ps.map (·.unwrap) →
        parse source' = .ok ⟨f.package,
          (qs.filter (!·.hidesReceiver)).flatMap (·.unwrap.part.declarations)⟩ ∧
        (qs.map (·.hidesReceiver) = ps.map (·.hidesReceiver) → parse source' = .ok f) ∧
        ((∀ p ∈ ps, p.hidesReceiver = false) →
          (parse source' = .ok f ↔ ∀ q ∈ qs, q.hidesReceiver = false)) := by
  obtain ⟨ps, hps, hfile⟩ := parse_eq_ok_iff.mp haccepted
  refine ⟨ps, hps, fun source' qs hqs hsame => ?_⟩
  have hparse : parse source' = fileOf (qs.map (·.part)) := by rw [parse_eq, hqs]
  obtain ⟨hpackage, hdeclarations⟩ := fileOf_eq_ok.mp hfile
  have hpackage' : ((qs.map (·.part)).filterMap (·.package)).getLast? = some f.package := by
    rw [PartTerm.packages_parts, hsame, ← PartTerm.packages_parts, hpackage]
  rw [hparse]
  refine ⟨fileOf_eq_ok.mpr ⟨hpackage', PartTerm.declarations_parts qs⟩, ?_, ?_⟩
  · intro hhidden
    -- without parentheses and with the same receivers hidden, the parts add the same
    rw [PartTerm.map_part, hhidden, hsame, ← PartTerm.map_part, hfile]
  · intro hshown
    -- the first text declares all that its parts declare without parentheses
    have hall : ((qs.map (·.unwrap)).map (·.part)).flatMap (·.declarations) = f.declarations := by
      rw [hsame, ← hdeclarations, (PartTerm.declarations_parts_eq_iff ps).mpr hshown]
    rw [fileOf_eq_ok, ← PartTerm.declarations_parts_eq_iff, hall]
    exact and_iff_right hpackage'

/-! A record with one field and a method with one parameter, over the types of the field, the receiver and
the parameter. -/

/-- The text over the texts of the types. -/
def finderText (field receiver key : String) : String :=
  "package m\n\ntype Store struct \x7b\n\titems " ++ field ++ "\n\x7d\n\nfunc (s " ++ receiver ++
    ") Find(id " ++ key ++ ") \x7b\x7d\n"

/-- The parts over the types. -/
def finderParts (field receiver key : TypeTerm) : List PartTerm :=
  [.clause "m", .types [.struct "Store" [⟨["items"], field, none⟩]],
    .method [⟨["s"], false, receiver⟩] ⟨"Find", ⟨[⟨["id"], false, key⟩], []⟩⟩]

/-- The file of this record and method. -/
def finder : SourceFile where
  package := "m"
  declarations := [.struct ⟨"Store", [⟨["items"], .slice (.pointer (.name "Item")), none⟩]⟩,
    .method ⟨⟨some "s", "AccountService", true⟩, "Find", ⟨[⟨["id"], .name "Key"⟩], []⟩⟩]

/-- Without parentheses. -/
lemma trees?_finder : trees? (finderText "[]*Item" "*AccountService" "Key") = some (finderParts
    (.slice (.pointer (.name "Item"))) (.pointer (.name "AccountService")) (.name "Key")) := by
  decide +kernel

lemma parse_finder_plain : parse (finderText "[]*Item" "*AccountService" "Key") = .ok finder :=
  parse_eq_ok_iff.mpr ⟨_, trees?_finder, rfl⟩

/-- With parentheses around the type of the receiver. -/
lemma trees?_finder_hidden : trees? (finderText "[]*Item" "(*AccountService)" "Key") = some (finderParts
    (.slice (.pointer (.name "Item"))) (.parenthesised (.pointer (.name "AccountService")))
    (.name "Key")) := by
  decide +kernel

/-- Parentheses around the types of the field and the parameter change nothing. Those around the type of the
receiver leave only the record. -/
theorem parse_finder :
    parse (finderText "[]*Item" "*AccountService" "Key") = .ok finder ∧
    parse (finderText "[](*Item)" "*AccountService" "((Key))") = .ok finder ∧
    parse (finderText "[]*Item" "(*AccountService)" "Key") =
      .ok ⟨"m", [.struct ⟨"Store", [⟨["items"], .slice (.pointer (.name "Item")), none⟩]⟩]⟩ := by
  have hwrapped : trees? (finderText "[](*Item)" "*AccountService" "((Key))") = some (finderParts
      (.slice (.parenthesised (.pointer (.name "Item")))) (.pointer (.name "AccountService"))
      (.parenthesised (.parenthesised (.name "Key")))) := by
    decide +kernel
  obtain ⟨ps, hps, hsame⟩ := parse_unwrapped parse_finder_plain
  obtain rfl := Option.some.inj (trees?_finder.symm.trans hps)
  have hparameters := hsame _ _ hwrapped rfl
  have hreceiver := hsame _ _ trees?_finder_hidden rfl
  exact ⟨parse_finder_plain, (hparameters.2.2 (by decide)).mpr (by decide), hreceiver.1⟩

/-- The two texts differ only in the parentheses around the type of the receiver, but the method is
declared only without them. -/
theorem parse_finder_hidden :
    parse (finderText "[]*Item" "*AccountService" "Key") = .ok finder ∧
    parse (finderText "[]*Item" "(*AccountService)" "Key") ≠ .ok finder := by
  refine ⟨parse_finder_plain, ?_⟩
  rw [parse_eq, trees?_finder_hidden]
  decide

end SourceFile

end DeclGen
