import DeclGen.Proofs.Source.Parts

/-!
# The rows of declarations

The rows of a declaration that can be written are rows of the part that declares it: types, items, lists and
signatures are laid out on one line, fields and methods each on a line of its own. So each of them is read
back as what was written.
-/

namespace DeclGen

open Source

/-- A plain type as a term; it has no parentheses. -/
def TypeExpr.term : TypeExpr → TypeTerm
  | name id => .name id
  | qualified (name package) id => .selection package id
  | pointer e => .pointer e.term
  | slice e => .slice e.term
  | _ => .emptyInterface

lemma TypeExpr.Nominal.expr_term {e : TypeExpr} (h : e.Nominal) : e.term.expr = e := by
  cases h <;> rfl

lemma TypeExpr.Plain.expr_term {e : TypeExpr} (h : e.Plain) : e.term.expr = e := by
  induction h with
  | nominal h => exact h.expr_term
  | slice _ ih => exact congrArg TypeExpr.slice ih
  | pointer _ ih => exact congrArg TypeExpr.pointer ih
  | openType => rfl

namespace Source

/-! ## Types -/

section Types

variable {m : Mode} {e : TypeExpr} {s : List Token}

lemma isNamed_term (h : e.Nominal) : e.term.IsNamed := by
  cases h <;> trivial

/-- The row of a name or a selection, also at the beginning of a line. -/
lemma laidOut_nominal (h : e.Nominal) {newLine : Bool}
    (hs : s.map Token.mark = onOneLine newLine e.lexemes) : e.term.LaidOut m s := by
  cases h with
  | name h =>
    obtain ⟨u, rfl, hu⟩ := List.map_eq_singleton_iff.mp hs
    exact .name (congrArg Prod.fst hu)
  | selection =>
    obtain ⟨u, s, rfl, hu, hs⟩ := List.map_eq_cons_iff.mp hs
    obtain ⟨v, s, rfl, hv, hs⟩ := List.map_eq_cons_iff.mp hs
    obtain ⟨w, rfl, hw⟩ := List.map_eq_singleton_iff.mp hs
    exact .selection (congrArg Prod.fst hu) (congrArg Prod.fst hv) (fun _ => congrArg Prod.snd hv)
      (congrArg Prod.fst hw)

/-- The row of a plain type. -/
lemma laidOut_type (h : e.Plain) (hs : s.map Token.mark = inLine e.lexemes) : e.term.LaidOut m s := by
  induction h generalizing s with
  | nominal h => exact laidOut_nominal h (hs.trans (onOneLine_false _).symm)
  | slice h ih =>
    obtain ⟨u, s, rfl, hu, hs⟩ := List.map_eq_cons_iff.mp hs
    obtain ⟨v, s, rfl, hv, hs⟩ := List.map_eq_cons_iff.mp hs
    exact .slice (congrArg Prod.fst hu) (congrArg Prod.fst hv) (ih hs)
  | pointer h ih =>
    obtain ⟨u, s, rfl, hu, hs⟩ := List.map_eq_cons_iff.mp hs
    exact .pointer (congrArg Prod.fst hu) (ih hs)
  | openType =>
    obtain ⟨u, s, rfl, hu, hs⟩ := List.map_eq_cons_iff.mp hs
    obtain ⟨v, s, rfl, hv, hs⟩ := List.map_eq_cons_iff.mp hs
    obtain ⟨w, rfl, hw⟩ := List.map_eq_singleton_iff.mp hs
    exact .emptyInterface (congrArg Prod.fst hu) (congrArg Prod.fst hv) (congrArg Prod.fst hw)

lemma exists_lexemes_nominal (h : e.Nominal) : ∃ id row, e.lexemes = .name id :: row := by
  cases h with
  | name h => exact ⟨_, [], rfl⟩
  | selection => exact ⟨_, _, rfl⟩

/-- A plain type has no parentheses, and so no list begins where it does. -/
lemma begins_type (h : e.Plain) (hs : s.map Token.mark = inLine e.lexemes) :
    Begins (fun m => m.2 = false ∧ m.1 ≠ .symbol "(") s := by
  cases h with
  | nominal h =>
    obtain ⟨id, row, hrow⟩ := exists_lexemes_nominal h
    rw [hrow] at hs
    obtain ⟨u, s, rfl, hu, -⟩ := List.map_eq_cons_iff.mp hs
    exact ⟨u, s, rfl, by simp [hu]⟩
  | _ =>
    obtain ⟨u, s, rfl, hu, -⟩ := List.map_eq_cons_iff.mp hs
    exact ⟨u, s, rfl, by simp [hu]⟩

end Types

/-! ## Parameters -/

/-- The row of an item. -/
def ParamItem.lexemes : ParamItem → List Lexeme
  | bare t => t.expr.lexemes
  | named id t => .name id :: t.expr.lexemes
  | variadic id t => id.toList.map .name ++ .symbol "..." :: t.expr.lexemes

/-- An item whose type is plain. -/
inductive ParamItem.Written : ParamItem → Prop
  | bare {e : TypeExpr} (h : e.Plain) : Written (.bare e.term)
  | named (id : String) {e : TypeExpr} (h : e.Plain) : Written (.named id e.term)
  | variadic (id : Option String) {e : TypeExpr} (h : e.Plain) : Written (.variadic id e.term)

/-- The row of an item is one that it may be written as. -/
lemma laidOut_paramItem {i : ParamItem} (h : i.Written) {s : List Token}
    (hs : s.map Token.mark = inLine i.lexemes) : i.LaidOut s := by
  cases h with
  | bare h =>
    rw [ParamItem.lexemes, h.expr_term] at hs
    exact .bare (laidOut_type h hs)
  | named id h =>
    rw [ParamItem.lexemes, h.expr_term] at hs
    obtain ⟨u, s, rfl, hu, hs⟩ := List.map_eq_cons_iff.mp hs
    exact .named (congrArg Prod.fst hu) (laidOut_type h hs)
  | variadic id h =>
    rw [ParamItem.lexemes, h.expr_term] at hs
    cases id with
    | none =>
      obtain ⟨u, s, rfl, hu, hs⟩ := List.map_eq_cons_iff.mp hs
      exact .variadic (congrArg Prod.fst hu) (laidOut_type h hs)
    | some id =>
      obtain ⟨u, s, rfl, hu, hs⟩ := List.map_eq_cons_iff.mp hs
      obtain ⟨v, s, rfl, hv, hs⟩ := List.map_eq_cons_iff.mp hs
      exact .namedVariadic (congrArg Prod.fst hu) (congrArg Prod.fst hv) (laidOut_type h hs)

/-! ## Parameter lists -/

lemma commas_cons_of_ne_nil (row : List Lexeme) {rows : List (List Lexeme)} (h : rows ≠ []) :
    commas (row :: rows) = row ++ .symbol "," :: commas rows := by
  obtain ⟨row', rows, rfl⟩ := List.exists_cons_of_ne_nil h
  simp [commas_cons]

lemma commas_append {rows rows' : List (List Lexeme)} (h : rows ≠ []) (h' : rows' ≠ []) :
    commas (rows ++ rows') = commas rows ++ .symbol "," :: commas rows' := by
  obtain ⟨row, rows, rfl⟩ := List.exists_cons_of_ne_nil h
  obtain ⟨row', rows', rfl⟩ := List.exists_cons_of_ne_nil h'
  simp [commas_cons]

/-- The rows of lists, put together, are the rows of their items. -/
lemma commas_flatMap {α β : Type} {items : List α} {parts : α → List β} {row : β → List Lexeme}
    (h : ∀ x, parts x ≠ []) : commas ((items.flatMap parts).map row) =
      commas (items.map fun x => commas ((parts x).map row)) := by
  induction items with
  | nil => rfl
  | cons x items ih =>
    cases items with
    | nil => simp [commas_cons]
    | cons y items =>
      have hx : (parts x).map row ≠ [] := by simpa using h x
      have hy : ((y :: items).flatMap parts).map row ≠ [] := by simp [h y]
      rw [List.flatMap_cons, List.map_append, commas_append hx hy, ih]
      simp [commas_cons]

end Source

open Source

/-- The items of names that share a type. The last one stands with the type. -/
def namedItems (t : TypeTerm) : List String → List ParamItem
  | [] => [.bare t]
  | [n] => [.named n t]
  | n :: ns => .bare (.name n) :: namedItems t ns

namespace ParamDecl

/-- The items of a group. -/
def items (p : ParamDecl) : List ParamItem :=
  match p.type with
  | .variadic e => [.variadic p.names.head? e.term]
  | e => namedItems e.term p.names

/-- The group as it is read. -/
def group (p : ParamDecl) : ParamGroup :=
  match p.type with
  | .variadic e => ⟨p.names, true, e.term⟩
  | e => ⟨p.names, false, e.term⟩

variable {p : ParamDecl}

lemma items_plain {names : List String} {e : TypeExpr} (h : e.Plain) :
    items ⟨names, e⟩ = namedItems e.term names := by
  cases h with
  | nominal h => cases h <;> rfl
  | _ => rfl

lemma group_plain {names : List String} {e : TypeExpr} (h : e.Plain) :
    group ⟨names, e⟩ = ⟨names, false, e.term⟩ := by
  cases h with
  | nominal h => cases h <;> rfl
  | _ => rfl

lemma Written.decl_group (h : p.Written) : p.group.decl = p := by
  cases h with
  | plain _ h => simp [group_plain h, ParamGroup.decl, h.expr_term]
  | variadic _ _ h => simp [group, ParamGroup.decl, h.expr_term]

lemma namedItems_ne_nil {t : TypeTerm} {names : List String} : namedItems t names ≠ [] := by
  unfold namedItems
  split <;> simp

lemma items_ne_nil : p.items ≠ [] := by
  unfold items
  split
  · simp
  · exact namedItems_ne_nil

lemma Written.items (h : p.Written) : ∀ i ∈ p.items, i.Written := by
  cases h with
  | @plain names e hnames h =>
    rw [items_plain h]
    induction names with
    | nil => simpa [namedItems] using .bare h
    | cons n ns ih =>
      obtain ⟨hn, hns⟩ := List.forall_mem_cons.mp hnames
      cases ns with
      | nil => simpa [namedItems] using .named n h
      | cons n' ns =>
        have hfirst : ParamItem.Written (.bare (.name n)) := .bare (.nominal (.name hn))
        exact List.forall_mem_cons.mpr ⟨hfirst, ih hns⟩
  | variadic _ _ h => simpa [ParamDecl.items] using .variadic _ h

/-- The row of a group is that of its items. -/
lemma Written.lexemes_eq (h : p.Written) : p.lexemes = commas (p.items.map (·.lexemes)) := by
  cases h with
  | @plain names e hnames h =>
    rw [items_plain h]
    show nameRow names ++ e.lexemes = _
    clear hnames
    induction names with
    | nil => simp [nameRow, namedItems, commas_cons, ParamItem.lexemes, h.expr_term]
    | cons n ns ih =>
      cases ns with
      | nil => simp [nameRow, namedItems, commas_cons, ParamItem.lexemes, h.expr_term]
      | cons n' ns =>
        have hrow : nameRow (n :: n' :: ns) = .name n :: .symbol "," :: nameRow (n' :: ns) :=
          commas_cons_of_ne_nil [.name n] (by simp)
        have hitems : commas ((namedItems e.term (n :: n' :: ns)).map (·.lexemes)) =
            .name n :: .symbol "," :: commas ((namedItems e.term (n' :: ns)).map (·.lexemes)) :=
          commas_cons_of_ne_nil [.name n] (by simpa using namedItems_ne_nil)
        rw [hrow, hitems, ← ih]
        rfl
  | @variadic names e _ hone h =>
    have hshort : names = [] ∨ ∃ n, names = [n] := by
      cases names with
      | nil => exact .inl rfl
      | cons n ns =>
        obtain rfl : ns = [] := List.length_eq_zero_iff.mp (by simpa using hone)
        exact .inr ⟨n, rfl⟩
    rcases hshort with rfl | ⟨n, rfl⟩ <;>
      simp [lexemes, ParamDecl.items, nameRow, commas_cons, ParamItem.lexemes, TypeExpr.lexemes,
        h.expr_term]

end ParamDecl

namespace Source

open Reader Signature

lemma ofItems_named {t : TypeTerm} {pending names : List String} (h : names ≠ [])
    (rest : List ParamItem) :
    ParamGroup.ofItems pending (namedItems t names ++ rest) =
      ⟨pending ++ names, false, t⟩ :: ParamGroup.ofItems [] rest := by
  induction names generalizing pending with
  | nil => exact absurd rfl h
  | cons n ns ih =>
    cases ns with
    | nil => rfl
    | cons n' ns =>
      have hstep : ParamGroup.ofItems (pending ++ [n]) (namedItems t (n' :: ns) ++ rest) = _ :=
        ih (by simp)
      rwa [List.append_assoc] at hstep

/-- Where all groups have names, each item with a type ends a group. -/
lemma ofItems_of_named {params : List ParamDecl} (h : ∀ p ∈ params, p.Written)
    (hnames : ∀ p ∈ params, p.names ≠ []) :
    ParamGroup.ofItems [] (params.flatMap (·.items)) = params.map (·.group) := by
  induction params with
  | nil => rfl
  | cons p params ih =>
    obtain ⟨hp, hparams⟩ := List.forall_mem_cons.mp h
    obtain ⟨hsome, hrest⟩ := List.forall_mem_cons.mp hnames
    rw [List.flatMap_cons, List.map_cons, ← ih hparams hrest]
    cases hp with
    | plain _ htype =>
      rw [ParamDecl.items_plain htype, ParamDecl.group_plain htype, ofItems_named hsome]
      rfl
    | @variadic names e _ hone _ =>
      obtain ⟨n, ns, rfl⟩ := List.exists_cons_of_ne_nil hsome
      obtain rfl : ns = [] := List.length_eq_zero_iff.mp (by simpa using hone)
      rfl

/-- Where no group has a name, names that stand alone are types. -/
lemma ofItems_of_unnamed {params : List ParamDecl} (h : ∀ p ∈ params, p.Written)
    (hnames : ∀ p ∈ params, p.names = []) (pending : List String) :
    ParamGroup.ofItems pending (params.flatMap (·.items)) =
      ParamGroup.unnamed pending ++ params.map (·.group) := by
  induction params generalizing pending with
  | nil => simp [ParamGroup.ofItems]
  | cons p params ih =>
    obtain ⟨hp, hparams⟩ := List.forall_mem_cons.mp h
    obtain ⟨hnone, hrest⟩ := List.forall_mem_cons.mp hnames
    have hflush := ih hparams hrest []
    rw [List.flatMap_cons, List.map_cons]
    cases hp with
    | @plain names e _ htype =>
      obtain rfl : names = [] := hnone
      rw [ParamDecl.items_plain htype, ParamDecl.group_plain htype]
      cases htype with
      | nominal hnominal =>
        cases hnominal with
        | @name id _ =>
          -- a bare name may still become a parameter's name, so it waits for what follows
          refine (ih hparams hrest (pending ++ [id])).trans ?_
          simp [ParamGroup.unnamed, TypeExpr.term]
        | selection => exact congrArg (ParamGroup.unnamed pending ++ _ :: ·) hflush
      | _ => exact congrArg (ParamGroup.unnamed pending ++ _ :: ·) hflush
    | @variadic names e _ _ _ =>
      obtain rfl : names = [] := hnone
      exact congrArg (ParamGroup.unnamed pending ++ _ :: ·) hflush

lemma ofItems_items {params : List ParamDecl} (h : WrittenList params) :
    ParamGroup.ofItems [] (params.flatMap (·.items)) = params.map (·.group) := by
  rcases h.uniform with hunnamed | hnamed
  · exact ofItems_of_unnamed h.each hunnamed []
  · exact ofItems_of_named h.each hnamed

/-- The row of a list of parameters is one that the list may be written as. -/
lemma laidOut_list {params : List ParamDecl} (h : WrittenList params) {newLine : Bool} {s : List Token}
    (hs : s.map Token.mark = onOneLine newLine (listLexemes params)) :
    ParamGroup.ListLaidOut (params.map (·.group)) s := by
  have hrow : commas (params.map (·.lexemes)) = commas ((params.flatMap (·.items)).map (·.lexemes)) := by
    rw [commas_flatMap fun p => ParamDecl.items_ne_nil]
    exact congrArg commas (List.map_congr_left fun p hp => (h.each p hp).lexemes_eq)
  have hitems : ∀ i ∈ params.flatMap (·.items), i.Written := by
    intro i hi
    obtain ⟨p, hp, hi⟩ := List.mem_flatMap.mp hi
    exact (h.each p hp).items i hi
  obtain ⟨u, s, rfl, hu, htail⟩ := List.map_eq_cons_iff.mp hs
  have hinner : s.map Token.mark = inLine (commas ((params.flatMap (·.items)).map (·.lexemes))) ++
      inLine [.symbol ")"] := by
    rw [← hrow, ← inLine_append]
    exact htail
  obtain ⟨s, back, rfl, hrows, hback⟩ := List.map_eq_append_iff.mp hinner
  obtain ⟨v, rfl, hv⟩ := List.map_eq_singleton_iff.mp hback
  refine ⟨params.flatMap (·.items), ?_, ofItems_items h⟩
  have hopen : u.lexeme = .symbol "(" := congrArg Prod.fst hu
  have hclose : v.lexeme = .symbol ")" := congrArg Prod.fst hv
  cases hlist : params.flatMap (·.items) with
  | nil =>
    obtain rfl : s = [] := by simpa [hlist, inLine] using hrows
    exact .empty hopen hclose
  | cons i items =>
    rw [hlist] at hrows hitems
    obtain ⟨front, rest, rfl, hfront, hrest⟩ :=
      exists_inTurn_of_commas (fun j hj s hs => laidOut_paramItem (hitems j hj) hs) hrows
    have hall : ParamItem.ListLaidOut (i :: items) (u :: (front ++ rest ++ (none.toList ++ [v]))) :=
      .items hopen hfront hrest (by simp) hclose
    exact hall

/-! ## Signatures -/

/-- The row of results. -/
lemma laidOut_results {results : List ParamDecl} (h : WrittenList results) {s : List Token}
    (hs : s.map Token.mark = inLine (resultLexemes results)) :
    SignatureTerm.ResultsLaidOut (results.map (·.group)) s := by
  unfold resultLexemes at hs
  by_cases hempty : results.isEmpty
  · obtain rfl := List.isEmpty_iff.mp hempty
    obtain rfl : s = [] := by simpa [inLine] using hs
    exact .none
  rw [if_neg hempty] at hs
  cases hsingle : single? results with
  | some type =>
    rw [hsingle] at hs
    obtain ⟨rfl, -⟩ := single?_eq_some hsingle
    have htype := plain_of_single? hsingle h.each
    have hbegins := begins_type htype hs
    rw [List.map_singleton, ParamDecl.group_plain htype]
    exact .single (hbegins.mono fun _ hm => hm.1) (hbegins.mono fun _ hm => hm.2)
      (.inl (laidOut_type htype hs))
  | none =>
    rw [hsingle, ← onOneLine_false] at hs
    obtain ⟨u, tail, rfl, hu, -⟩ := List.map_eq_cons_iff.mp (show _ = _ :: _ from hs)
    exact .list ⟨u, tail, rfl, congrArg Prod.snd hu⟩ (laidOut_list h hs)

end Source

/-- The signature as it is written. -/
def Signature.term (s : Signature) : SignatureTerm := ⟨s.params.map (·.group), s.results.map (·.group)⟩

lemma Signature.Written.decl_term {s : Signature} (h : s.Written) : s.term.decl = s := by
  have hgroups : ∀ l : List ParamDecl, (∀ p ∈ l, p.Written) → (l.map (·.group)).map (·.decl) = l := by
    intro l hl
    rw [List.map_map]
    exact (List.map_congr_left fun p hp => (hl p hp).decl_group).trans (List.map_id l)
  show Signature.mk _ _ = _
  rw [term, hgroups _ h.params.each, hgroups _ h.results.each]

/-- The row of a signature. -/
lemma Signature.Written.laidOut {g : Signature} (h : g.Written) {s : List Token}
    (hs : s.map Token.mark = inLine g.lexemes) : g.term.LaidOut s := by
  rw [Signature.lexemes, inLine_append] at hs
  obtain ⟨front, back, rfl, hfront, hback⟩ := List.map_eq_append_iff.mp hs
  exact ⟨front, back, rfl, laidOut_list h.params (hfront.trans (onOneLine_false _).symm),
    laidOut_results h.results hback⟩

end DeclGen
