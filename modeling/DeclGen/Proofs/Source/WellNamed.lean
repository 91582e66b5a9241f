import DeclGen.Proofs.Declaration.Unqualified
import DeclGen.Proofs.Source.Reading

/-!
# Names of what is read

Every name in a file that was read is a name as the lexer makes them, and what is selected in a type is
selected from a bare name (`wellNamed_of_parse`).
-/

namespace DeclGen

open Source

/-- A type whose names are names as they are read, and whose selections are from bare names. -/
def TypeExpr.WellNamed (e : TypeExpr) : Prop :=
  e.packagesAreNames ∧ ∀ n ∈ e.names, IsName n

/-- No part of the type is variadic. -/
def TypeExpr.isSpreadFree : TypeExpr → Bool
  | variadic _ => false
  | slice e | pointer e | qualified e _ => e.isSpreadFree
  | name _ | openType | unsupported _ _ => true

/-- No part of the type is variadic, except it may be as a whole. -/
def TypeExpr.spreadsOutside : TypeExpr → Bool
  | variadic e => e.isSpreadFree
  | e => e.isSpreadFree

/-- Parameters of one type, all with names as they are read. Only the slot as a whole can be variadic. -/
structure ParamDecl.WellNamed (d : ParamDecl) : Prop where
  names : ∀ n ∈ d.names, IsName n
  type : d.type.WellNamed
  spreadsOutside : d.type.spreadsOutside

/-- Parameters and results with names as they are read. -/
def Signature.WellNamed (s : Signature) : Prop :=
  (∀ d ∈ s.params, d.WellNamed) ∧ ∀ d ∈ s.results, d.WellNamed

/-- A method of an interface with names as they are read. -/
def MethodSpec.WellNamed (m : MethodSpec) : Prop := IsName m.name ∧ m.signature.WellNamed

/-- Fields of one type, all with names as they are read. -/
def FieldDecl.WellNamed (d : FieldDecl) : Prop :=
  (∀ n ∈ d.names, IsName n) ∧ d.type.WellNamed

/-- A receiver with names as they are read. -/
def Receiver.WellNamed (r : Receiver) : Prop := (∀ n ∈ r.name, IsName n) ∧ IsName r.typeName

/-- A declaration with names as they are read. -/
def Declaration.WellNamed : Declaration → Prop
  | struct d => IsName d.name ∧ ∀ f ∈ d.fields, f.WellNamed
  | interface d => IsName d.name ∧ ∀ m ∈ d.methods, m.WellNamed
  | method d => d.receiver.WellNamed ∧ IsName d.name ∧ d.signature.WellNamed
  | function d => IsName d.name ∧ d.signature.WellNamed

/-- A file whose names are all names as they are read. -/
structure SourceFile.WellNamed (f : SourceFile) : Prop where
  package : IsName f.package
  declarations : ∀ d ∈ f.declarations, d.WellNamed

section Files

variable {f : SourceFile} (hf : f.WellNamed)
include hf

/-- What is picked from a file is declared in it. -/
lemma wellNamed_of_mem {α : Type} {pick : Declaration → Option α} {make : α → Declaration}
    (hpick : ∀ decl a, pick decl = some a → decl = make a) {a : α} (ha : a ∈ f.declarations.filterMap pick) :
    (make a).WellNamed := by
  obtain ⟨decl, hdecl, hpicked⟩ := List.mem_filterMap.mp ha
  exact hpick decl a hpicked ▸ hf.declarations decl hdecl

/-- The records of a file have names as they are read. -/
lemma wellNamed_struct {d : StructDecl} (hd : d ∈ f.structs) : (Declaration.struct d).WellNamed := by
  refine wellNamed_of_mem hf (fun decl a h => ?_) hd
  cases decl with
  | struct d' => exact congrArg Declaration.struct (Option.some.inj h)
  | _ => cases h

/-- The interfaces of a file have names as they are read. -/
lemma wellNamed_interface {d : InterfaceDecl} (hd : d ∈ f.interfaces) :
    (Declaration.interface d).WellNamed := by
  refine wellNamed_of_mem hf (fun decl a h => ?_) hd
  cases decl with
  | interface d' => exact congrArg Declaration.interface (Option.some.inj h)
  | _ => cases h

/-- The methods of a file have names as they are read. -/
lemma wellNamed_method {d : MethodDecl} (hd : d ∈ f.methods) : (Declaration.method d).WellNamed := by
  refine wellNamed_of_mem hf (fun decl a h => ?_) hd
  cases decl with
  | method d' => exact congrArg Declaration.method (Option.some.inj h)
  | _ => cases h

end Files

namespace Source

/-! ## Types -/

lemma suffix_of_withArguments {m : Mode} {plain t : TypeTerm} {s rest after : List Token}
    (h : TypeTerm.withArguments m plain s rest = (t, after)) :
    (t = plain ∨ ∃ text, t = .other .generic text) ∧ after <:+ rest := by
  unfold TypeTerm.withArguments at h
  split at h
  · split at h
    · rename_i end? hread
      obtain ⟨rfl, rfl⟩ := Prod.mk.inj h
      exact ⟨.inr ⟨_, rfl⟩, suffix_of_read? hread⟩
    · obtain ⟨rfl, rfl⟩ := Prod.mk.inj h
      exact ⟨.inl rfl, List.suffix_refl _⟩
  · obtain ⟨rfl, rfl⟩ := Prod.mk.inj h
    exact ⟨.inl rfl, List.suffix_refl _⟩

lemma wellNamed_name {id : String} (h : IsName id) : (TypeTerm.name id).expr.WellNamed :=
  ⟨rfl, by simpa [TypeTerm.expr, TypeExpr.names] using h⟩

lemma wellNamed_selection {package id : String} (hp : IsName package) (h : IsName id) :
    (TypeTerm.selection package id).expr.WellNamed :=
  ⟨rfl, by simpa [TypeTerm.expr, TypeExpr.names] using ⟨hp, h⟩⟩

lemma wellNamed_other (shape : Shape) (text : String) : (TypeTerm.other shape text).expr.WellNamed :=
  ⟨rfl, by simp [TypeTerm.expr, TypeExpr.names]⟩

/-- A type that is kept as text holds no names. -/
lemma readOther_yields (shape : Shape) (r : Rule) (m : Mode) :
    Yields NamesRead (TypeTerm.readOther? shape r m) fun t => t.expr.WellNamed := by
  intro s t rest _ hrun
  obtain ⟨after, hafter, hpair⟩ := Option.map_eq_some_iff.mp hrun
  obtain ⟨rfl, rfl⟩ := Prod.mk.inj hpair
  exact ⟨wellNamed_other _ _, suffix_of_read? hafter⟩

lemma withArguments_wellNamed {m : Mode} {plain t : TypeTerm} {s rest after : List Token}
    (hplain : plain.expr.WellNamed) (h : TypeTerm.withArguments m plain s rest = (t, after)) :
    t.expr.WellNamed := by
  rcases (suffix_of_withArguments h).1 with rfl | ⟨text, rfl⟩
  · exact hplain
  · exact wellNamed_other _ _

lemma readNamed_yields (m : Mode) :
    Yields NamesRead (TypeTerm.readNamed? m) fun t => t.expr.WellNamed := by
  intro s t rest hgood hrun
  unfold TypeTerm.readNamed? at hrun
  split at hrun
  · rename_i u s
    split at hrun
    · rename_i id hid
      have hname : IsName id := hgood u List.mem_cons_self id hid
      split at hrun
      · split at hrun
        · rename_i v w after _
          split at hrun
          · rename_i selected hselected
            have hsecond : IsName selected := hgood w (by simp) selected hselected
            have hpair := Option.some.inj hrun
            refine ⟨withArguments_wellNamed (wellNamed_selection hname hsecond) hpair, ?_⟩
            exact (suffix_of_withArguments hpair).2.trans ⟨[u, v, w], rfl⟩
          · obtain ⟨rfl, rfl⟩ := Prod.mk.inj (Option.some.inj hrun)
            exact ⟨wellNamed_name hname, List.suffix_cons _ _⟩
        · obtain ⟨rfl, rfl⟩ := Prod.mk.inj (Option.some.inj hrun)
          exact ⟨wellNamed_name hname, List.suffix_cons _ _⟩
      · have hpair := Option.some.inj hrun
        refine ⟨withArguments_wellNamed (wellNamed_name hname) hpair, ?_⟩
        exact (suffix_of_withArguments hpair).2.trans (List.suffix_cons _ _)
    · simp at hrun
  · simp at hrun

/-- A type that is read has only names as they are read. -/
lemma typeTerm_yields (m : Mode) :
    Yields NamesRead (typeTerm m) fun t => t.expr.WellNamed := by
  intro s
  show ∀ t rest, _ → TypeTerm.read? m s = some (t, rest) → _
  -- what a sign or a bracket stands in front of is read one or two tokens further on
  induction hlength : s.length using Nat.strongRecOn generalizing m s with
  | ind n ih =>
    intro t rest hgood hrun
    cases s with
    | nil => simp [TypeTerm.read?] at hrun
    | cons u tail =>
      have hbelow : ∀ v ∈ tail, NamesRead v := fun v hv => hgood v (List.mem_cons_of_mem u hv)
      have hnext := fun m' => ih tail.length (by simp [← hlength]) m' (s := tail) rfl
      unfold TypeTerm.read? at hrun
      dsimp only at hrun
      split at hrun
      case h_1 =>
        obtain ⟨⟨target, after⟩, hread, hpair⟩ := Option.map_eq_some_iff.mp hrun
        obtain ⟨rfl, rfl⟩ := Prod.mk.inj hpair
        have hinner := hnext m target after hbelow hread
        exact ⟨hinner.1, hinner.2.trans (List.suffix_cons u tail)⟩
      case h_2 =>
        split at hrun
        · rename_i inner v after hread
          split at hrun
          · obtain ⟨rfl, rfl⟩ := Prod.mk.inj (Option.some.inj hrun)
            have hinner := hnext .inside inner (v :: after) hbelow hread
            exact ⟨hinner.1,
              ((List.suffix_cons v after).trans hinner.2).trans (List.suffix_cons u tail)⟩
          · simp at hrun
        · simp at hrun
      case h_3 =>
        split at hrun
        · rename_i v tail
          split at hrun
          · obtain ⟨⟨element, after⟩, hread, hpair⟩ := Option.map_eq_some_iff.mp hrun
            obtain ⟨rfl, rfl⟩ := Prod.mk.inj hpair
            have hlater : tail.length < n := by
              rw [List.length_cons, List.length_cons] at hlength
              omega
            have hinner := ih tail.length hlater m (s := tail) rfl element after
              (fun w hw => hbelow w (List.mem_cons_of_mem v hw)) hread
            exact ⟨hinner.1, hinner.2.trans ⟨[u, v], rfl⟩⟩
          · exact readOther_yields _ _ _ hgood hrun
        · simp at hrun
      case h_10 =>
        split at hrun
        · rename_i v w after
          split at hrun
          · obtain ⟨rfl, rfl⟩ := Prod.mk.inj (Option.some.inj hrun)
            exact ⟨⟨rfl, by simp [TypeTerm.expr, TypeExpr.names]⟩, ⟨[u, v, w], rfl⟩⟩
          · exact readOther_yields _ _ _ hgood hrun
        · simp at hrun
      case h_11 => exact readNamed_yields _ hgood hrun
      case h_12 => simp at hrun
      all_goals exact readOther_yields _ _ _ hgood hrun

/-! ## Parameters -/

lemma name_yields : Yields NamesRead Reader.name IsName := by
  refine Yields.next fun t ht id hid => ht id ?_
  split at hid
  · rename_i n hn
    obtain rfl : n = id := by simpa using hid
    exact hn
  · simp at hid

/-- An item of a parameter list with names as they are read. -/
def ParamItem.WellNamed : ParamItem → Prop
  | bare t => t.expr.WellNamed
  | named id t => IsName id ∧ t.expr.WellNamed
  | variadic id t => (∀ n ∈ id, IsName n) ∧ t.expr.WellNamed

lemma paramItem_yields : Yields NamesRead paramItem ParamItem.WellNamed := by
  refine Yields.orElse ?_ (Yields.orElse ?_ (Yields.orElse ?_ ?_))
  · refine (Yields.sign "...").bind fun _ _ => (typeTerm_yields _).bind fun t ht => Yields.pure ?_
    exact ⟨by simp, ht⟩
  · refine name_yields.bind fun id hid => (Yields.sign "...").bind fun _ _ => ?_
    refine (typeTerm_yields _).bind fun t ht => Yields.pure ?_
    exact ⟨by simpa using hid, ht⟩
  · refine name_yields.bind fun id hid => (typeTerm_yields _).bind fun t ht => ?_
    exact (Yields.phrase _ _).bind fun _ _ => Yields.pure ⟨hid, ht⟩
  · exact (typeTerm_yields _).bind fun t ht => (Yields.phrase _ _).bind fun _ _ => Yields.pure ht

/-- No term is variadic. -/
lemma isSpreadFree_expr (t : TypeTerm) : t.expr.isSpreadFree := by
  induction t with
  | pointer t ih | slice t ih | parenthesised t ih => exact ih
  | _ => rfl

/-- A group of slots is well named when its names and its type are. -/
lemma wellNamed_decl {g : ParamGroup} (hnames : ∀ n ∈ g.names, IsName n)
    (htype : g.type.expr.WellNamed) : g.decl.WellNamed := by
  obtain ⟨names, variadic, t⟩ := g
  have hfree := isSpreadFree_expr t
  cases variadic with
  | true => exact ⟨hnames, htype, hfree⟩
  | false =>
    refine ⟨hnames, htype, ?_⟩
    show t.expr.spreadsOutside
    unfold TypeExpr.spreadsOutside
    split
    · rename_i e heq
      simp [heq, TypeExpr.isSpreadFree] at hfree
    · exact hfree

lemma wellNamed_unnamed {ids : List String} (h : ∀ n ∈ ids, IsName n) :
    ∀ g ∈ ParamGroup.unnamed ids, g.decl.WellNamed := by
  intro g hg
  obtain ⟨id, hid, rfl⟩ := List.mem_map.mp hg
  exact wellNamed_decl (by simp) (wellNamed_name (h id hid))

/-- The groups of a parameter list have the names of its items. -/
lemma wellNamed_ofItems {pending : List String} {items : List ParamItem}
    (hpending : ∀ n ∈ pending, IsName n) (hitems : ∀ i ∈ items, i.WellNamed) :
    ∀ g ∈ ParamGroup.ofItems pending items, g.decl.WellNamed := by
  induction items generalizing pending with
  | nil => exact wellNamed_unnamed hpending
  | cons item rest ih =>
    obtain ⟨hitem, hrest⟩ := List.forall_mem_cons.mp hitems
    have hgroups : ∀ g ∈ ParamGroup.ofItems [] rest, g.decl.WellNamed := ih (by simp) hrest
    cases item with
    | bare t =>
      have hunnamed : ∀ g ∈ ParamGroup.unnamed pending ++ ⟨[], false, t⟩ :: ParamGroup.ofItems [] rest,
          g.decl.WellNamed := by
        refine List.forall_mem_append.mpr ⟨wellNamed_unnamed hpending, ?_⟩
        exact List.forall_mem_cons.mpr ⟨wellNamed_decl (by simp) hitem, hgroups⟩
      cases t with
      | name id =>
        refine ih (List.forall_mem_append.mpr ⟨hpending, ?_⟩) hrest
        simpa [ParamItem.WellNamed, TypeTerm.expr, TypeExpr.WellNamed, TypeExpr.names,
          TypeExpr.packagesAreNames] using hitem
      | _ => exact hunnamed
    | named id t =>
      refine List.forall_mem_cons.mpr ⟨wellNamed_decl ?_ hitem.2, hgroups⟩
      exact List.forall_mem_append.mpr ⟨hpending, by simpa using hitem.1⟩
    | variadic id t =>
      refine List.forall_mem_append.mpr ⟨wellNamed_unnamed hpending, ?_⟩
      refine List.forall_mem_cons.mpr ⟨wellNamed_decl ?_ hitem.2, hgroups⟩
      simpa using hitem.1

lemma parameters_yields :
    Yields NamesRead parameters fun groups => ∀ g ∈ groups, g.decl.WellNamed := by
  refine (Yields.sign "(").bind fun _ _ => ?_
  refine paramItem_yields.commaSeparated.optionally.bind fun items hitems => ?_
  refine (Yields.sign ",").optionally.bind fun _ _ => (Yields.sign ")").bind fun _ _ => Yields.pure ?_
  refine wellNamed_ofItems (by simp) ?_
  cases items with
  | none => simp
  | some l => exact hitems l rfl

lemma results_yields : Yields NamesRead results fun groups => ∀ g ∈ groups, g.decl.WellNamed := by
  have hsingle : Yields NamesRead (do let t ← typeTerm .block; return [(⟨[], false, t⟩ : ParamGroup)])
      fun groups => ∀ g ∈ groups, g.decl.WellNamed := by
    refine (typeTerm_yields _).bind fun t ht => Yields.pure ?_
    exact List.forall_mem_singleton.mpr (wellNamed_decl (by simp) ht)
  refine ((Yields.sameLine _).bind fun _ _ => parameters_yields.orElse hsingle).optionally.bind
    fun groups hgroups => Yields.pure ?_
  cases groups with
  | none => simp
  | some l => exact hgroups l rfl

lemma signature_yields : Yields NamesRead signature Signature.WellNamed := by
  refine parameters_yields.bind fun params hparams => results_yields.bind fun results hresults => ?_
  exact Yields.pure ⟨List.forall_mem_map.mpr hparams, List.forall_mem_map.mpr hresults⟩

/-! ## Records and interfaces -/

lemma fieldType_yields :
    Yields NamesRead fieldType fun x => (∀ n ∈ x.1, IsName n) ∧ x.2.expr.WellNamed := by
  refine Yields.orElse ?_ (Yields.orElse ?_ (Yields.orElse ?_ ?_))
  · refine (Yields.sign "*").bind fun _ _ => (readNamed_yields _).bind fun t ht => Yields.pure ?_
    exact ⟨by simp, ht⟩
  · refine (readNamed_yields _).bind fun t ht => (Yields.phrase _ _).bind fun _ _ => Yields.pure ?_
    exact ⟨by simp, ht⟩
  · refine name_yields.bind fun id hid => (Yields.sign ",").bind fun _ _ => ?_
    refine name_yields.commaSeparated.bind fun ids hids => ?_
    refine (typeTerm_yields _).bind fun t ht => Yields.pure ⟨?_, ht⟩
    exact List.forall_mem_cons.mpr ⟨hid, hids⟩
  · refine name_yields.bind fun id hid => (Yields.sameLine _).bind fun _ _ => ?_
    refine (typeTerm_yields _).bind fun t ht => Yields.pure ⟨?_, ht⟩
    exact List.forall_mem_singleton.mpr hid

lemma field_yields : Yields NamesRead field FieldDecl.WellNamed := by
  refine fieldType_yields.bind fun x hx => ?_
  exact ((Yields.sameLine _).bind fun _ _ => Yields.literal).optionally.bind fun _ _ => Yields.pure hx

lemma element_yields : Yields NamesRead element fun o => ∀ m ∈ o, m.WellNamed := by
  refine Yields.orElse ?_ ((Yields.phrase _ _).bind fun _ _ => Yields.pure (by simp))
  refine name_yields.bind fun id hid => (Yields.sameLine _).bind fun _ _ => ?_
  refine signature_yields.bind fun sig hsig => Yields.pure ?_
  intro m hm
  obtain rfl := Option.some.inj hm
  exact ⟨hid, hsig⟩

lemma methods_yields : Yields NamesRead methods fun l => ∀ m ∈ l, m.WellNamed := by
  refine (Yields.key "interface").bind fun _ _ => element_yields.braced.bind fun l hl => Yields.pure ?_
  intro m hm
  obtain ⟨o, ho, hom⟩ := List.mem_filterMap.mp hm
  exact hl o ho m hom

/-! ## Declarations -/

lemma typeBody_yields {id : String} (hid : IsName id) :
    Yields NamesRead (typeBody id) fun l => ∀ d ∈ l, d.WellNamed := by
  refine Yields.orElse ?_ (Yields.orElse ?_ ?_)
  · refine ((Yields.key "struct").bind fun _ _ => field_yields.braced).bind fun fs hfs => Yields.pure ?_
    exact List.forall_mem_singleton.mpr ⟨hid, hfs⟩
  · refine methods_yields.bind fun ms hms => Yields.pure ?_
    exact List.forall_mem_singleton.mpr ⟨hid, hms⟩
  · exact (Yields.phrase _ _).bind fun _ _ => Yields.pure (by simp)

lemma typeSpec_yields : Yields NamesRead typeSpec fun l => ∀ d ∈ l, d.WellNamed := by
  have hsynonym : Yields NamesRead (do
      Reader.sign "="
      Reader.phrase .block (.rule .type)
      return ([] : List Declaration)) fun l => ∀ d ∈ l, d.WellNamed :=
    (Yields.sign "=").bind fun _ _ => (Yields.phrase _ _).bind fun _ _ => Yields.pure (by simp)
  refine name_yields.bind fun id hid => ?_
  refine hsynonym.orElse ((typeBody_yields hid).orElse ?_)
  exact (Yields.phrase _ _).bind fun _ _ => hsynonym.orElse (typeBody_yields hid)

lemma typeDeclaration_yields : Yields NamesRead typeDeclaration fun l => ∀ d ∈ l, d.WellNamed := by
  have hspecs : Yields NamesRead (do
      let spec ← typeSpec
      let rest ← Reader.many (do Reader.terminator; typeSpec)
      let _ ← optional Reader.terminator
      return spec :: rest) fun l => ∀ ds ∈ l, ∀ d ∈ ds, d.WellNamed := by
    refine typeSpec_yields.bind fun spec hspec => ?_
    refine (Yields.terminator.bind fun _ _ => typeSpec_yields).many.bind fun rest hrest => ?_
    refine Yields.terminator.optionally.bind fun _ _ => Yields.pure ?_
    exact List.forall_mem_cons.mpr ⟨hspec, hrest⟩
  refine (Yields.key "type").bind fun _ _ => typeSpec_yields.orElse ?_
  refine (Yields.sign "(").bind fun _ _ => hspecs.optionally.bind fun specs hs => ?_
  refine (Yields.sign ")").bind fun _ _ => Yields.pure ?_
  intro d hd
  obtain ⟨ds, hds, hmem⟩ := List.mem_flatten.mp hd
  cases specs with
  | none => simp at hds
  | some l => exact hs l rfl ds hds d hmem

lemma function_yields : Yields NamesRead function fun l => ∀ d ∈ l, d.WellNamed := by
  refine (Yields.key "func").bind fun _ _ => name_yields.bind fun id hid => ?_
  refine (Yields.phrase _ _).bind fun _ _ => signature_yields.bind fun sig hsig => ?_
  refine (Yields.phrase _ _).bind fun _ _ => Yields.pure ?_
  exact List.forall_mem_singleton.mpr ⟨hid, hsig⟩

lemma wellNamed_receiver? {groups : List ParamGroup} (h : ∀ g ∈ groups, g.decl.WellNamed)
    {r : Receiver} (hr : receiver? groups = some r) : r.WellNamed := by
  have hnamed : ∀ {names : List String} {variadic : Bool} {t : TypeTerm} {id : String},
      groups.find? (!·.variadic) = some ⟨names, variadic, t⟩ → id ∈ t.expr.names →
        (∀ n ∈ names.head?, IsName n) ∧ IsName id := by
    intro names variadic t id hfind hid
    have hgroup := h _ (List.mem_of_find?_eq_some hfind)
    refine ⟨fun n hn => hgroup.1 n (List.mem_of_mem_head? hn), ?_⟩
    cases variadic <;> exact hgroup.2.2 id hid
  unfold receiver? at hr
  split at hr
  · rename_i names variadic id hfind
    obtain rfl := Option.some.inj hr
    exact hnamed hfind (by simp [TypeTerm.expr, TypeExpr.names])
  · rename_i names variadic id hfind
    obtain rfl := Option.some.inj hr
    exact hnamed hfind (by simp [TypeTerm.expr, TypeExpr.names])
  · simp at hr

lemma method_yields : Yields NamesRead method fun l => ∀ d ∈ l, d.WellNamed := by
  refine (Yields.key "func").bind fun _ _ => parameters_yields.bind fun groups hgroups => ?_
  refine name_yields.bind fun id hid => signature_yields.bind fun sig hsig => ?_
  refine (Yields.phrase _ _).bind fun _ _ => Yields.pure ?_
  intro d hd
  obtain ⟨r, hr, rfl⟩ := Option.map_eq_some_iff.mp (Option.mem_toList.mp hd)
  exact ⟨wellNamed_receiver? hgroups hr, hid, hsig⟩

/-! ## Files -/

/-- A part of a file with names as they are read. -/
structure Part.WellNamed (p : Part) : Prop where
  package : ∀ n ∈ p.package, IsName n
  declarations : ∀ d ∈ p.declarations, d.WellNamed

lemma topLevel_yields : Yields NamesRead topLevel Part.WellNamed := by
  refine Yields.orElse ?_ (Yields.orElse ?_ (Yields.orElse ?_ ?_))
  · refine (Yields.key "package").bind fun _ _ => name_yields.bind fun id hid => Yields.pure ?_
    exact ⟨by simpa using hid, by simp⟩
  · exact (Yields.phrase _ _).bind fun _ _ => Yields.pure ⟨by simp, by simp⟩
  · exact function_yields.bind fun l hl => Yields.pure ⟨by simp, hl⟩
  · exact method_yields.bind fun l hl => Yields.pure ⟨by simp, hl⟩

lemma statement_yields : Yields NamesRead statement Part.WellNamed := by
  refine Yields.orElse ?_ ?_
  · exact typeDeclaration_yields.bind fun l hl => Yields.pure ⟨by simp, hl⟩
  · exact (Yields.phrase _ _).bind fun _ _ => Yields.pure ⟨by simp, by simp⟩

lemma terminatedPart_yields : Yields NamesRead terminatedPart Part.WellNamed :=
  (topLevel_yields.bind fun _ hp => Yields.terminator.bind fun _ _ => Yields.pure hp).orElse
    (statement_yields.bind fun _ hp => Yields.terminator.bind fun _ _ => Yields.pure hp)

lemma parts_yields : Yields NamesRead parts fun l => ∀ p ∈ l, p.WellNamed := by
  refine terminatedPart_yields.many.bind fun front hfront => ?_
  refine topLevel_yields.optionally.bind fun last hlast => Yields.finish.bind fun _ _ => Yields.pure ?_
  refine List.forall_mem_append.mpr ⟨hfront, fun p hp => hlast p ?_⟩
  exact Option.mem_toList.mp hp

end Source

/-- All names of a file that was read are names as they are read, whatever the text. -/
theorem wellNamed_of_parse [ErrorRecovery] {source : String} {f : SourceFile} (h : SourceFile.parse source = .ok f) :
    f.WellNamed := by
  unfold SourceFile.parse at h
  split at h
  · simp at h
  · rename_i parts hparts
    obtain ⟨tokens, htokens, hread⟩ := Option.bind_eq_some_iff.mp hparts
    obtain ⟨⟨parts', rest⟩, hrun, rfl⟩ : ∃ x, Source.parts tokens = some x ∧ x.1 = parts := by
      simpa [StateT.run'] using hread
    have hall := (parts_yields (fun t ht => namesRead_of_mem_tokens? htokens ht) hrun).1
    split at h
    · simp at h
    · rename_i package hpackage
      obtain rfl := Except.ok.inj h
      refine ⟨?_, fun d hd => ?_⟩
      · obtain ⟨p, hp, hname⟩ := List.mem_filterMap.mp (List.mem_of_getLast? hpackage)
        exact (hall p hp).package package hname
      · obtain ⟨p, hp, hmem⟩ := List.mem_flatMap.mp hd
        exact (hall p hp).declarations d hmem

end DeclGen
