import SandboxProvider.Lib.JsonText

/-!
# JSON texts, read back

Reading inverts writing, whatever the layout (`JsonTree.Writable.readBack`), and what is read can be
written again (`JsonTree.writable_of_readWhole`): its literals are numbers and it is not nested deeper
than the scanner allows.
-/

namespace SandboxProvider.Lib

theorem skipSpace_of_not {c : Char} {rest : List Char} (h : isJsonSpace c = false) :
    skipSpace (c :: rest) = c :: rest := by
  simp [skipSpace, h]

theorem skipSpace_append {blanks : List Char} (h : ∀ c ∈ blanks, isJsonSpace c = true)
    (text : List Char) : skipSpace (blanks ++ text) = skipSpace text := by
  induction blanks with
  | nil => rfl
  | cons c blanks ih =>
    rw [List.cons_append, skipSpace, List.dropWhile_cons_of_pos (h c List.mem_cons_self)]
    exact ih fun d hd => h d (List.mem_cons_of_mem _ hd)

theorem readValue_append {blanks : List Char} (h : ∀ c ∈ blanks, isJsonSpace c = true)
    (fuel room : Nat) (text : List Char) :
    readValue fuel room (blanks ++ text) = readValue fuel room text := by
  cases fuel with
  | zero => rfl
  | succ fuel => simp only [readValue, skipSpace_append h]

/-- A blank ends a number. -/
theorem endsNumber_append {blanks rest : List Char} (h : ∀ c ∈ blanks, isJsonSpace c = true)
    (hrest : EndsNumber rest) : EndsNumber (blanks ++ rest) := by
  cases blanks with
  | nil => exact hrest
  | cons c blanks =>
    have hspace := h c List.mem_cons_self
    simp only [isJsonSpace, decide_eq_true_eq] at hspace
    refine endsNumber_cons ?_ _
    intro state
    rcases hspace with rfl | rfl | rfl | rfl <;> cases state <;> rfl

theorem readKey_quote {blanks : List Char} (h : ∀ c ∈ blanks, isJsonSpace c = true) (key : String)
    (rest : List Char) : readKey (blanks ++ (quote key ++ ':' :: rest)) = some (key, rest) := by
  have htext : quote key ++ ':' :: rest =
      '"' :: (key.toList.flatMap escapeChar ++ '"' :: ':' :: rest) := by
    simp [quote]
  rw [htext, readKey, skipSpace_append h, skipSpace_of_not rfl]
  simp only [readChars_escaped, skipSpace_of_not (show isJsonSpace ':' = false from rfl),
    String.ofList_toList]

namespace JsonTree

/-- The literals are numbers, and at most `room` arrays and objects are inside each other. -/
inductive Writable : Nat → JsonTree → Prop
  | null {room} : Writable room .null
  | bool {room value} : Writable room (.bool value)
  | number {room literal} (h : IsNumber literal) : Writable room (.number literal)
  | string {room value} : Writable room (.string value)
  | array {room items} (h : ∀ item ∈ items, Writable room item) : Writable (room + 1) (.array items)
  | object {room members} (h : ∀ member ∈ members, Writable room member.2) :
      Writable (room + 1) (.object members)

section ReadBack

variable {layout : Layout} {room : Nat}

/-- The first character of a written value. -/
theorem Writable.head {tree : JsonTree} (h : Writable room tree) (layout : Layout) (depth : Nat) :
    ∃ c rest, tree.writeWith layout depth = c :: rest ∧ isJsonSpace c = false ∧ c ≠ ']' := by
  cases h with
  | null => exact ⟨_, _, rfl, rfl, by decide⟩
  | @bool _ value => cases value <;> exact ⟨_, _, rfl, rfl, by decide⟩
  | number h =>
    obtain ⟨c, rest, rfl, hc⟩ := h.head
    refine ⟨c, rest, rfl, ?_, numberHead_ne hc (by decide)⟩
    simp [isJsonSpace, numberHead_ne hc]
  | string => exact ⟨_, _, rfl, rfl, by decide⟩
  | @array _ items => cases items <;> exact ⟨_, _, rfl, rfl, by decide⟩
  | @object _ members => cases members <;> exact ⟨_, _, rfl, rfl, by decide⟩

/-- The tree is read back from the start of a text, given a step for each of its characters. -/
def ReadBack (layout : Layout) (room : Nat) (tree : JsonTree) : Prop :=
  ∀ fuel depth rest, (tree.writeWith layout depth).length ≤ fuel → EndsNumber rest →
    readValue fuel room (tree.writeWith layout depth ++ rest) = some (tree, rest)

theorem endsNumber_items (layout : Layout) (depth : Nat) (items : List JsonTree)
    (rest : List Char) : EndsNumber (writeItemsWith layout depth items ++ rest) := by
  cases items with
  | nil =>
    rw [writeItemsWith, List.append_assoc]
    refine endsNumber_append (layout.line_space depth) ?_
    exact endsNumber_cons (by intro state; cases state <;> rfl) rest
  | cons => exact endsNumber_cons (by intro state; cases state <;> rfl) _

theorem endsNumber_members (layout : Layout) (depth : Nat) (members : List (String × JsonTree))
    (rest : List Char) : EndsNumber (writeMembersWith layout depth members ++ rest) := by
  cases members with
  | nil =>
    rw [writeMembersWith, List.append_assoc]
    refine endsNumber_append (layout.line_space depth) ?_
    exact endsNumber_cons (by intro state; cases state <;> rfl) rest
  | cons => exact endsNumber_cons (by intro state; cases state <;> rfl) _

theorem readItems_write (items : List JsonTree) (h : ∀ item ∈ items, ReadBack layout room item)
    (fuel depth : Nat) (rest : List Char)
    (hfuel : (writeItemsWith layout depth items).length ≤ fuel) :
    readItems fuel room (writeItemsWith layout depth items ++ rest) = some (items, rest) := by
  have hline := layout.line_space
  induction items generalizing fuel with
  | nil =>
    simp only [writeItemsWith, List.length_append, List.length_singleton] at hfuel
    cases fuel with
    | zero => omega
    | succ fuel =>
      simp only [writeItemsWith, List.append_assoc, readItems, skipSpace_append (hline depth)]
      rfl
  | cons item items ih =>
    simp only [writeItemsWith, List.length_cons, List.length_append] at hfuel
    cases fuel with
    | zero => omega
    | succ fuel =>
      have hitem := h item List.mem_cons_self fuel (depth + 1)
        (writeItemsWith layout depth items ++ rest) (by omega) (endsNumber_items layout depth items rest)
      have hitems := ih (fun item hitem => h item (List.mem_cons_of_mem _ hitem)) fuel (by omega)
      simp only [writeItemsWith, List.cons_append, List.append_assoc, readItems,
        skipSpace_of_not (show isJsonSpace ',' = false from rfl), readValue_append (hline _), hitem,
        hitems, Option.bind_some, Option.map_some]

theorem readMembers_write (members : List (String × JsonTree))
    (h : ∀ member ∈ members, ReadBack layout room member.2) (fuel depth : Nat) (rest : List Char)
    (hfuel : (writeMembersWith layout depth members).length ≤ fuel) :
    readMembers fuel room (writeMembersWith layout depth members ++ rest) = some (members, rest) := by
  have hline := layout.line_space
  induction members generalizing fuel with
  | nil =>
    simp only [writeMembersWith, List.length_append, List.length_singleton] at hfuel
    cases fuel with
    | zero => omega
    | succ fuel =>
      simp only [writeMembersWith, List.append_assoc, readMembers, skipSpace_append (hline depth)]
      rfl
  | cons member members ih =>
    obtain ⟨key, value⟩ := member
    simp only [writeMembersWith, List.length_cons, List.length_append] at hfuel
    cases fuel with
    | zero => omega
    | succ fuel =>
      have hvalue := h (key, value) List.mem_cons_self fuel (depth + 1)
        (writeMembersWith layout depth members ++ rest) (by simp only; omega)
        (endsNumber_members layout depth members rest)
      have hmembers := ih (fun member hmember => h member (List.mem_cons_of_mem _ hmember)) fuel
        (by omega)
      simp only [writeMembersWith, List.cons_append, List.append_assoc, readMembers,
        skipSpace_of_not (show isJsonSpace ',' = false from rfl), readKey_quote (hline _),
        readValue_append layout.blank_space, hvalue, hmembers, Option.bind_some, Option.map_some]

theorem readBack_array {items : List JsonTree} (hitems : ∀ item ∈ items, Writable room item)
    (h : ∀ item ∈ items, ReadBack layout room item) :
    ReadBack layout (room + 1) (.array items) := by
  intro fuel depth rest hfuel _
  cases fuel with
  | zero => cases items <;> cases hfuel
  | succ fuel =>
    cases items with
    | nil => rfl
    | cons item items =>
      simp only [writeWith, List.length_cons, List.length_append] at hfuel
      obtain ⟨c, tail, hwrite, hspace, hne⟩ :=
        (hitems item List.mem_cons_self).head layout (depth + 1)
      have hitem := h item List.mem_cons_self fuel (depth + 1)
        (writeItemsWith layout depth items ++ rest) (by omega) (endsNumber_items layout depth items rest)
      have hrest := readItems_write items (fun item hitem => h item (List.mem_cons_of_mem _ hitem))
        fuel depth rest (by omega)
      have hskip (text : List Char) :
          skipSpace (layout.line (depth + 1) ++ (item.writeWith layout (depth + 1) ++ text)) =
            item.writeWith layout (depth + 1) ++ text := by
        rw [skipSpace_append (layout.line_space _), hwrite, List.cons_append,
          skipSpace_of_not hspace]
      simp only [writeWith, List.cons_append, List.append_assoc, readValue,
        skipSpace_of_not (show isJsonSpace '[' = false from rfl), Char.reduceEq, if_false, if_true,
        hskip]
      split
      · rename_i heq
        rw [hwrite] at heq
        cases heq
        exact absurd rfl hne
      · simp only [hitem, hrest, Option.bind_some, Option.map_some]

theorem readBack_object {members : List (String × JsonTree)}
    (h : ∀ member ∈ members, ReadBack layout room member.2) :
    ReadBack layout (room + 1) (.object members) := by
  intro fuel depth rest hfuel _
  cases fuel with
  | zero => cases members <;> cases hfuel
  | succ fuel =>
    cases members with
    | nil => rfl
    | cons member members =>
      obtain ⟨key, value⟩ := member
      simp only [writeWith, List.length_cons, List.length_append] at hfuel
      have hvalue := h (key, value) List.mem_cons_self fuel (depth + 1)
        (writeMembersWith layout depth members ++ rest) (by simp only; omega)
        (endsNumber_members layout depth members rest)
      have hrest := readMembers_write members
        (fun member hmember => h member (List.mem_cons_of_mem _ hmember)) fuel depth rest (by omega)
      have hkey (text : List Char) : readKey (quote key ++ ':' :: text) = some (key, text) :=
        readKey_quote (List.forall_mem_nil _) key text
      have hskip (text : List Char) :
          skipSpace (layout.line (depth + 1) ++ (quote key ++ text)) = quote key ++ text := by
        rw [skipSpace_append (layout.line_space _)]
        exact skipSpace_of_not rfl
      simp only [writeWith, List.cons_append, List.append_assoc, readValue,
        skipSpace_of_not (show isJsonSpace '\x7b' = false from rfl), Char.reduceEq, if_false,
        if_true, hskip]
      split
      · rename_i heq
        cases heq
      · simp only [hkey, readValue_append layout.blank_space, hvalue, hrest, Option.bind_some,
          Option.map_some]

/-- **Round trip**: reading inverts writing. -/
theorem Writable.readBack {tree : JsonTree} (h : Writable room tree) :
    ReadBack layout room tree := by
  induction h with
  | null =>
    intro fuel depth rest hfuel _
    cases fuel with
    | zero => cases hfuel
    | succ fuel => simp [writeWith, readValue, skipSpace_of_not, isJsonSpace, readWord]
  | @bool _ value =>
    intro fuel depth rest hfuel _
    cases fuel with
    | zero => cases value <;> cases hfuel
    | succ fuel =>
      cases value <;> simp [writeWith, readValue, skipSpace_of_not, isJsonSpace, readWord]
  | number h =>
    intro fuel depth rest hfuel hrest
    obtain ⟨c, tail, rfl, hc⟩ := h.head
    cases fuel with
    | zero => cases hfuel
    | succ fuel =>
      have hread := readNumber_append h hrest
      have hspace : isJsonSpace c = false := by simp [isJsonSpace, numberHead_ne hc]
      rw [List.cons_append] at hread
      simp [writeWith, readValue, skipSpace_of_not hspace, numberHead_ne hc, hread]
  | @string _ value =>
    intro fuel depth rest hfuel _
    cases fuel with
    | zero => cases hfuel
    | succ fuel =>
      simp [writeWith, quote, readValue, skipSpace_of_not, isJsonSpace, readChars_escaped]
  | array hitems ih => exact readBack_array hitems ih
  | object _ ih => exact readBack_object ih

end ReadBack

/-- A written text is read back, whatever comes after it. -/
theorem readText_write {tree : JsonTree} (h : Writable maxNestingDepth tree) {rest : List Char}
    (hrest : EndsNumber rest) : readText (tree.write ++ rest) = some tree := by
  have hback : ReadBack .compact maxNestingDepth tree := h.readBack
  have hread := hback (tree.write ++ rest).length 0 rest (by rw [writeWith_compact]; simp) hrest
  rw [writeWith_compact] at hread
  rw [readText, hread]
  rfl

theorem readWhole_writeWith {tree : JsonTree} (h : Writable maxNestingDepth tree) (layout : Layout)
    (depth : Nat) : readWhole (tree.writeWith layout depth) = some tree := by
  have hback : ReadBack layout maxNestingDepth tree := h.readBack
  have hread := hback _ depth [] le_rfl endsNumber_nil
  rw [List.append_nil] at hread
  rw [readWhole, hread]
  rfl

/-! ## What is read can be written -/

theorem readNumber_literal {state : NumberState} {text literal rest : List Char}
    (h : readNumber state text = some (literal, rest)) :
    readNumber state literal = some (literal, []) := by
  induction text generalizing state literal with
  | nil =>
    rw [readNumber] at h
    split at h
    · rename_i hend
      cases h
      simp [readNumber, hend]
    · cases h
  | cons c text ih =>
    rw [readNumber] at h
    split at h
    · rename_i state' hnext
      obtain ⟨p, hread, heq⟩ := Option.map_eq_some_iff.mp h
      cases heq
      simp [readNumber, hnext, ih hread]
    · split at h
      · rename_i hend
        cases h
        simp [readNumber, hend]
      · cases h

theorem writable_of_readWord {word text rest : List Char} {tree result : JsonTree} {room : Nat}
    (htree : Writable room tree) (h : readWord word tree text = some (result, rest)) :
    Writable room result := by
  unfold readWord at h
  split at h
  · cases h
    exact htree
  · cases h

/-- What is read from a text with so many steps can be written, with the same room. -/
structure ReadsWritable (fuel : Nat) : Prop where
  value : ∀ {room text tree rest}, readValue fuel room text = some (tree, rest) → Writable room tree
  items : ∀ {room text items rest}, readItems fuel room text = some (items, rest) →
    ∀ item ∈ items, Writable room item
  members : ∀ {room text members rest}, readMembers fuel room text = some (members, rest) →
    ∀ member ∈ members, Writable room member.2

namespace ReadsWritable

variable {fuel room : Nat} {text text' rest : List Char}

theorem cons_item (ih : ReadsWritable fuel) {item : JsonTree} {items : List JsonTree}
    (hvalue : readValue fuel room text = some (item, text'))
    (hitems : readItems fuel room text' = some (items, rest)) :
    ∀ x ∈ item :: items, Writable room x := by
  intro x hx
  rcases List.mem_cons.mp hx with rfl | hx
  · exact ih.value hvalue
  · exact ih.items hitems x hx

theorem cons_member (ih : ReadsWritable fuel) {key : String} {value : JsonTree}
    {members : List (String × JsonTree)} (hvalue : readValue fuel room text = some (value, text'))
    (hmembers : readMembers fuel room text' = some (members, rest)) :
    ∀ x ∈ (key, value) :: members, Writable room x.2 := by
  intro x hx
  rcases List.mem_cons.mp hx with rfl | hx
  · exact ih.value hvalue
  · exact ih.members hmembers x hx

theorem array (ih : ReadsWritable fuel) {tree : JsonTree}
    (h : ((readValue fuel room text).bind fun p =>
      (readItems fuel room p.2).map fun q => (JsonTree.array (p.1 :: q.1), q.2)) =
        some (tree, rest)) : Writable (room + 1) tree := by
  obtain ⟨p, hvalue, h⟩ := Option.bind_eq_some_iff.mp h
  obtain ⟨q, hitems, heq⟩ := Option.map_eq_some_iff.mp h
  cases heq
  exact .array (ih.cons_item hvalue hitems)

theorem object (ih : ReadsWritable fuel) {tree : JsonTree}
    (h : ((readKey text).bind fun k => (readValue fuel room k.2).bind fun p =>
      (readMembers fuel room p.2).map fun q => (JsonTree.object ((k.1, p.1) :: q.1), q.2)) =
        some (tree, rest)) : Writable (room + 1) tree := by
  obtain ⟨k, -, h⟩ := Option.bind_eq_some_iff.mp h
  obtain ⟨p, hvalue, h⟩ := Option.bind_eq_some_iff.mp h
  obtain ⟨q, hmembers, heq⟩ := Option.map_eq_some_iff.mp h
  cases heq
  exact .object (ih.cons_member hvalue hmembers)

theorem value_succ (ih : ReadsWritable fuel) {tree : JsonTree}
    (h : readValue (fuel + 1) room text = some (tree, rest)) : Writable room tree := by
  rw [readValue] at h
  split at h
  · cases h
  split at h
  · obtain ⟨p, -, heq⟩ := Option.map_eq_some_iff.mp h
    cases heq
    exact .string
  split at h
  · cases room with
    | zero => cases h
    | succ room =>
      dsimp only at h
      split at h
      · cases h
        exact .array (List.forall_mem_nil _)
      · exact ih.array h
  split at h
  · cases room with
    | zero => cases h
    | succ room =>
      dsimp only at h
      split at h
      · cases h
        exact .object (List.forall_mem_nil _)
      · exact ih.object h
  split at h
  · exact writable_of_readWord .null h
  split at h
  · exact writable_of_readWord .bool h
  split at h
  · exact writable_of_readWord .bool h
  · obtain ⟨p, hnumber, heq⟩ := Option.map_eq_some_iff.mp h
    cases heq
    exact .number (readNumber_literal hnumber)

theorem items_succ (ih : ReadsWritable fuel) {items : List JsonTree}
    (h : readItems (fuel + 1) room text = some (items, rest)) :
    ∀ item ∈ items, Writable room item := by
  rw [readItems] at h
  split at h
  · cases h
    exact List.forall_mem_nil _
  · obtain ⟨p, hvalue, h⟩ := Option.bind_eq_some_iff.mp h
    obtain ⟨q, hitems, heq⟩ := Option.map_eq_some_iff.mp h
    cases heq
    exact ih.cons_item hvalue hitems
  · cases h

theorem members_succ (ih : ReadsWritable fuel) {members : List (String × JsonTree)}
    (h : readMembers (fuel + 1) room text = some (members, rest)) :
    ∀ member ∈ members, Writable room member.2 := by
  rw [readMembers] at h
  split at h
  · cases h
    exact List.forall_mem_nil _
  · obtain ⟨k, -, h⟩ := Option.bind_eq_some_iff.mp h
    obtain ⟨p, hvalue, h⟩ := Option.bind_eq_some_iff.mp h
    obtain ⟨q, hmembers, heq⟩ := Option.map_eq_some_iff.mp h
    cases heq
    exact ih.cons_member hvalue hmembers
  · cases h

end ReadsWritable

theorem readsWritable (fuel : Nat) : ReadsWritable fuel := by
  induction fuel with
  | zero =>
    constructor
    all_goals
      intros
      contradiction
  | succ fuel ih => exact ⟨ih.value_succ, ih.items_succ, ih.members_succ⟩

theorem writable_of_readWhole {text : List Char} {tree : JsonTree} (h : readWhole text = some tree) :
    Writable maxNestingDepth tree := by
  unfold readWhole at h
  split at h
  · cases h
  · rename_i hread
    split at h
    · cases h
      exact (readsWritable _).value hread
    · cases h

end JsonTree

end SandboxProvider.Lib
