import PropertyAssignment.Proofs.ContainerUpdate

/-!
# Running an update again

Code that was run once is run again on the state that it left. Where the container of the slot was
filled, it is filled with the same once more. Where a value was stored in the slot, the value may
be computed from what the slot holds; then the second value is a copy, made in the same way, of the
first one. The exception is a container that the first run shares with the source: the second run
clears it before it reads it.
-/

namespace PropertyAssignment

namespace Expr

/-- Where the expression can be evaluated, it gives a container of the kind or reads null. -/
def IsContainerValued (kind : ContainerKind) (state : RunState) (expr : Expr) : Prop :=
  ∀ value after, expr.eval state.bindings state.memory = .ok (value, after) →
    value.IsContainer kind ∨ expr.Reads state.bindings state.memory.objects .null

theorem IsContainerValued.copy {kind : ContainerKind} {state : RunState} {expr : Expr}
    (valued : expr.IsContainerValued kind state) {type : JavaType} {rest : List Expr}
    {stored : RunValue} {last : Memory}
    (evaluates : (Expr.new type (expr :: rest)).eval state.bindings state.memory =
      .ok (stored, last)) :
    ∃ value after, expr.Yields state.bindings state.memory kind value after := by
  rw [eval.eq_def] at evaluates
  obtain ⟨⟨value, after⟩, evaluated, constructed⟩ := exists_of_bind_eq_ok evaluates
  rcases valued value after evaluated with isContainer | isNull
  · exact ⟨value, after, yields_of_eval evaluated isContainer⟩
  · -- Nothing is constructed from null.
    obtain ⟨rfl, rfl⟩ := Prod.mk.inj (Except.ok.inj (evaluated.symm.trans isNull.eval))
    cases constructed

end Expr

section
variable {state first : RunState} {slot : Slot} {property : Property} {kind : ContainerKind}
  {target value : Expr} {read : ContainerRead}

/-- The code runs from the state, and then the slot's content is what it is now. -/
def Slot.IsKeptBy (slot : Slot) (code : List Stmt) (state : RunState) : Prop :=
  ∃ final, Stmt.execAll code state = .ok final ∧
    final.memory.content (slot.value final.memory) = state.memory.content (slot.value state.memory)

namespace Slot.Backs

theorem ne_object (backs : slot.Backs property kind target state) (address : Nat) :
    slot.value state.memory ≠ .object address := by
  rcases backs.holds with isNull | isContainer
  · rw [isNull]
    exact nofun
  · exact isContainer.ne_object address

theorem of_objects_eq (backs : slot.Backs property kind target state) {memory : Memory}
    (same : memory.objects = state.memory.objects) :
    slot.Backs property kind target ⟨state.bindings, memory⟩ where
  container := backs.container
  target := by
    have reads := backs.reads
    rw [← same] at reads
    exact reads.eval
  getter getter isGetter := (backs.getter getter isGetter).of_objects_eq same
  setter setter isSetter := (backs.setter setter isSetter).of_objects_eq same
  holds := by
    rw [Slot.value_of_objects_eq same]
    exact backs.holds

theorem store (backs : slot.Backs property kind target state) {stored : RunValue}
    (fits : stored = .null ∨ stored.IsContainer kind) :
    slot.Backs property kind target ⟨state.bindings, slot.store stored state.memory⟩ where
  container := backs.container
  target := by
    rcases backs.reads.store backs.ne_object stored with reads | ⟨isSlot, _⟩
    · exact reads.eval
    · exact absurd isSlot.symm (backs.ne_object _)
  getter getter isGetter := by
    rw [Slot.IsReadBy, slot.adders_store]
    exact backs.getter getter isGetter
  setter setter isSetter := by
    rw [Slot.IsWrittenBy, slot.adders_store]
    exact backs.setter setter isSetter
  holds := by
    rwa [Slot.value_store]

/-- If the value yields a container once that of the slot is cleared, merging succeeds and leaves
in the slot's container what the value holds. -/
theorem exists_merge (backs : slot.Backs property kind target state)
    {container source : RunValue} {after : Memory}
    (isRead : slot.IsReadBy state.memory read.getter)
    (holds : slot.value state.memory = container) (isContainer : container.IsContainer kind)
    (isBelow : container.IsBelow state.memory.next) (hasKind : read.type.container = some kind)
    (notUsed : read.localName ∉ value.usedNames)
    (yields : value.Yields state.bindings (state.memory.clear container) kind source after)
    (elseBody : List Stmt) :
    ∃ final, Stmt.execAll (read.merge target value elseBody) state = .ok final ∧
      final.memory.content (slot.value final.memory) =
        (after.content source).copied (state.memory.content container).isUnique := by
  subst holds
  have refilled := isRefilled_of_yields isContainer isBelow yields
  have merges := (execAll_merge_iff read backs.target isRead isContainer hasKind notUsed
    elseBody).mpr ⟨source, after, yields, rfl⟩
  refine ⟨_, merges, ?_⟩
  rw [Slot.value_of_objects_eq refilled.objects]
  exact refilled.content

theorem skip_again (backs : slot.Backs property kind target state)
    (isRead : slot.IsReadBy state.memory read.getter) (isNull : slot.value state.memory = .null)
    (targetNotUsed : read.localName ∉ target.usedNames) {value : Expr}
    (firstRun : Stmt.execAll (read.merge target value []) state = .ok first) :
    slot.IsKeptBy (read.merge target value []) first := by
  rw [execAll_merge backs.target isRead, if_pos isNull, Stmt.execAll] at firstRun
  cases firstRun
  have again := execAll_merge (backs.bind targetNotUsed (slot.value state.memory)).target isRead
    value []
  exact ⟨_, again.trans (if_pos isNull), rfl⟩

theorem merge_again (backs : slot.Backs property kind target state)
    (wellFormed : state.WellFormed) (isRead : slot.IsReadBy state.memory read.getter)
    (isContainer : (slot.value state.memory).IsContainer kind)
    (hasKind : read.type.container = some kind) (notUsed : read.localName ∉ value.usedNames)
    (targetNotUsed : read.localName ∉ target.usedNames) {elseBody : List Stmt}
    (firstRun : Stmt.execAll (read.merge target value elseBody) state = .ok first) :
    slot.IsKeptBy (read.merge target value elseBody) first := by
  have isBelow := backs.value_isBelow wellFormed
  obtain ⟨source, after, yields, rfl⟩ := (execAll_merge_iff read backs.target isRead isContainer
    hasKind notUsed elseBody).mp firstRun
  have refilled := isRefilled_of_yields isContainer isBelow yields
  have nextLe : state.memory.next ≤ (after.fill (slot.value state.memory) source).next := by
    rw [Memory.next_fill, ← Memory.next_clear state.memory (slot.value state.memory)]
    exact yields.extends.next
  have sameKind : (state.memory.content (slot.value state.memory)).kind? =
      (after.content source).kind? := by
    rw [Memory.kind_content, Memory.kind_content, isContainer, yields.isContainer]
  clear firstRun
  generalize after.fill (slot.value state.memory) source = memory at refilled nextLe
  have sameSlot : slot.value memory = slot.value state.memory :=
    Slot.value_of_objects_eq refilled.objects
  -- Both runs read the value with the container cleared, and nothing else it reads has changed.
  obtain ⟨again, afterAgain, yieldsAgain, sameContent⟩ :=
    yields.transfer Eq (fun _ => rfl) (fun _ _ _ same => same ▸ rfl)
      (memory.clear (slot.value state.memory)) fun expr read reads isContainer => by
        rw [Memory.objects_clear] at reads
        refine ⟨read, ?_, isContainer, ?_⟩
        · rwa [Memory.objects_clear, refilled.objects]
        · by_cases isSlot : read = slot.value state.memory
          · rw [isSlot, Memory.content_clear_self, Memory.content_clear_self, refilled.content,
              Content.cleared_copied sameKind]
          · rw [Memory.content_clear_of_ne _ _ isSlot, Memory.content_clear_of_ne _ _ isSlot,
              refilled.others read (reads.isBelow wellFormed) isSlot]
  have backsAgain := (backs.of_objects_eq refilled.objects).bind targetNotUsed
    (slot.value state.memory)
  obtain ⟨second, runs, contents⟩ := backsAgain.exists_merge
    (isRead.of_objects_eq refilled.objects) sameSlot isContainer (isBelow.mono nextLe) hasKind
    notUsed (yieldsAgain.bind notUsed (slot.value state.memory)) elseBody
  refine ⟨second, runs, contents.trans ?_⟩
  change (afterAgain.content again).copied
    (memory.content (slot.value state.memory)).isUnique = memory.content (slot.value memory)
  rw [← sameContent, sameSlot, refilled.content, Content.isUnique_copied sameKind]

/-- What was set is set again to the same effect. The value may be a copy of what the slot holds;
the second value is then the same copy of the first one. -/
theorem set_again (backs : slot.Backs property kind target state)
    (wellFormed : state.WellFormed) {setter : String}
    (isWritten : slot.IsWrittenBy state.memory setter)
    (valued : value.IsContainerValued kind state)
    (firstRun : Stmt.execAll [.expression (.call target setter [value])] state = .ok first) :
    slot.IsKeptBy [.expression (.call target setter [value])] first := by
  obtain ⟨stored, after, evaluated⟩ := exists_eval_of_execAll_set backs.target firstRun
  have isWrittenAgain (stored : RunValue) : slot.IsWrittenBy (slot.store stored state.memory)
      setter := by
    rwa [Slot.IsWrittenBy, slot.adders_store]
  rcases valued stored after evaluated with isContainer | isNull
  · have yields := Expr.yields_of_eval evaluated isContainer
    have grown := yields.extends
    rw [execAll_set backs.target isWritten evaluated grown.objects] at firstRun
    cases firstRun
    have sameObjects := slot.objects_store_congr stored grown.objects
    -- A container that is read again is the same one, or the one stored instead of the slot's.
    let related (left right : Content) : Prop := left = right ∨ ∃ flags,
      left = (state.memory.content (slot.value state.memory)).copiedAll flags ∧
        right = (after.content stored).copiedAll flags
    obtain ⟨again, afterAgain, yieldsAgain, contents⟩ :=
      yields.transfer related (fun _ => .inl rfl)
        (by
          rintro unique left right (rfl | ⟨flags, rfl, rfl⟩)
          · exact .inl rfl
          · exact .inr ⟨flags ++ [unique], (Content.copiedAll_concat ..).symm,
              (Content.copiedAll_concat ..).symm⟩)
        (slot.store stored after) fun expr read reads isRead => by
          rcases reads.store backs.ne_object stored with same | ⟨rfl, other⟩
          · refine ⟨read, sameObjects ▸ same, isRead, .inl ?_⟩
            rw [Slot.content_store, grown.content read (reads.isBelow wellFormed)]
          · refine ⟨stored, sameObjects ▸ other, isContainer, .inr ⟨[], rfl, ?_⟩⟩
            rw [Slot.content_store]
            rfl
    have sameContent : afterAgain.content again = after.content stored := by
      rcases contents with same | ⟨flags, isCopy, isCopyAgain⟩
      · exact same.symm
      · rw [isCopyAgain, isCopy, Content.copiedAll_copiedAll]
    have target := ((backs.store (.inr isContainer)).of_objects_eq sameObjects).target
    refine ⟨_, execAll_set target ((isWrittenAgain stored).of_objects_eq sameObjects)
      yieldsAgain.eval yieldsAgain.extends.objects, ?_⟩
    simp only [Slot.value_store, Slot.content_store, sameContent]
  · obtain ⟨rfl, rfl⟩ := Prod.mk.inj (Except.ok.inj (evaluated.symm.trans isNull.eval))
    rw [execAll_set backs.target isWritten evaluated rfl] at firstRun
    cases firstRun
    have isNullAgain : value.Reads state.bindings (slot.store .null state.memory).objects
        .null := by
      rcases isNull.store backs.ne_object .null with reads | ⟨_, reads⟩
      · exact reads
      · exact reads
    refine ⟨_, execAll_set (backs.store (.inl rfl)).target (isWrittenAgain .null)
      isNullAgain.eval rfl, ?_⟩
    simp only [Slot.value_store]
    rfl

theorem exists_merge_of_stored (backs : slot.Backs property kind target state)
    {stored source : RunValue} {after last : Memory}
    (isRead : slot.IsReadBy state.memory read.getter) (hasKind : read.type.container = some kind)
    (notUsed : read.localName ∉ value.usedNames) (targetNotUsed : read.localName ∉ target.usedNames)
    (grown : state.memory.Extends after) (isContainer : stored.IsContainer kind)
    (isBelow : stored.IsBelow after.next)
    (yields : value.Yields state.bindings ((slot.store stored after).clear stored) kind source last)
    (elseBody : List Stmt) :
    ∃ second, Stmt.execAll (read.merge target value elseBody)
        ⟨(state.bind read.localName .null).bindings, slot.store stored after⟩ = .ok second ∧
      second.memory.content (slot.value second.memory) =
        (last.content source).copied (after.content stored).isUnique := by
  have sameObjects := slot.objects_store_congr stored grown.objects
  have backsAgain := ((backs.store (.inr isContainer)).of_objects_eq sameObjects).bind
    targetNotUsed .null
  have isReadAgain : slot.IsReadBy (slot.store stored state.memory) read.getter := by
    rwa [Slot.IsReadBy, slot.adders_store]
  obtain ⟨second, runs, contents⟩ := backsAgain.exists_merge
    (isReadAgain.of_objects_eq sameObjects) (slot.value_store stored after) isContainer isBelow
    hasKind notUsed (yields.bind notUsed .null) elseBody
  refine ⟨second, runs, contents.trans ?_⟩
  change (last.content source).copied ((slot.store stored after).content stored).isUnique = _
  rw [Slot.content_store]

theorem yields_of_stored_new (backs : slot.Backs property kind target state)
    (wellFormed : state.WellFormed) (isNull : slot.value state.memory = .null)
    {stored source : RunValue} {after middle : Memory} (grown : state.memory.Extends after)
    (isNew : ¬ stored.IsBelow state.memory.next)
    (yields : value.Yields state.bindings state.memory kind source middle) :
    ∃ again last, value.Yields state.bindings ((slot.store stored after).clear stored) kind again
      last ∧ last.content again = middle.content source := by
  obtain ⟨again, last, yieldsAgain, contents⟩ :=
    yields.transfer Eq (fun _ => rfl) (fun _ _ _ same => same ▸ rfl)
      ((slot.store stored after).clear stored) fun expr read reads isContainer => by
        have isBelow := reads.isBelow wellFormed
        have different : read ≠ stored := fun same => isNew (same ▸ isBelow)
        refine ⟨read, ?_, isContainer, ?_⟩
        · rw [Memory.objects_clear, slot.objects_store_congr stored grown.objects]
          rcases reads.store backs.ne_object stored with same | ⟨isSlot, _⟩
          · exact same
          · exact absurd (isSlot.trans isNull) isContainer.ne_null
        · rw [Memory.content_clear_of_ne _ _ different, Slot.content_store,
            grown.content read isBelow]
  exact ⟨again, last, yieldsAgain, contents.symm⟩

end Slot.Backs

end

theorem Tagged.value_isContainerValued (targetTags : RunValue) (kind : ValueKind) :
    (Tagged.value kind).valueExpr.IsContainerValued .sequence (Tagged.state targetTags) := by
  intro value after evaluated
  cases evaluated.symm.trans (Tagged.value_reads targetTags kind).eval
  exact .inl rfl

namespace Assignment

/-- A first run that stores the value itself makes the slot share a container with the source: the
value is no copy, and it is a container that was in use and is not empty. -/
def SharesValue (source : Assignment) (kind : ContainerKind) (state : RunState) : Prop :=
  source.kind ≠ .direct ∧ ∃ value after,
    source.valueExpr.eval state.bindings state.memory = .ok (value, after) ∧
      value.IsContainer kind ∧ value.IsBelow state.memory.next ∧ ¬ (after.content value).IsEmpty

section
variable {state first : RunState} {slot : Slot} {property : Property} {kind : ContainerKind}
  {target : Expr} {read : ContainerRead} {source : Assignment} {type : JavaType} {setter : String}

theorem not_sharesValue_of_yields {value : RunValue} {after : Memory}
    (yields : source.valueExpr.Yields state.bindings state.memory kind value after)
    (isNew : ¬ value.IsBelow state.memory.next) : ¬ source.SharesValue kind state := by
  rintro ⟨_, other, otherAfter, evaluated, _, isBelow, _⟩
  cases evaluated.symm.trans yields.eval
  exact isNew isBelow

theorem storedExpr_of_ne_direct (shared : source.kind ≠ .direct) (type : JavaType) :
    storedExpr type source = source.valueExpr := by
  refine if_neg ?_
  simp [ValueKind.isDirect, shared]

/-- The value stored is new, and what it holds is what merging the value into it gives; or it is
the value itself, as it was read. -/
theorem storedExpr_cases (valued : source.valueExpr.IsContainerValued kind state)
    {stored : RunValue} {after : Memory}
    (evaluated : (storedExpr type source).eval state.bindings state.memory = .ok (stored, after)) :
    (¬ source.SharesValue kind state ∧ ¬ stored.IsBelow state.memory.next ∧
      (storedExpr type source).Yields state.bindings state.memory kind stored after ∧
      ∃ value middle, source.valueExpr.Yields state.bindings state.memory kind value middle ∧
        (middle.content value).copied (after.content stored).isUnique = after.content stored) ∨
    (source.kind ≠ .direct ∧ after = state.memory ∧
      source.valueExpr.Reads state.bindings state.memory.objects stored ∧
      (stored.IsContainer kind ∨ stored = .null)) := by
  by_cases direct : source.kind = .direct
  · have isCopy : storedExpr type source = .new type.implementation [source.valueExpr] := by
      rw [storedExpr, direct]
      rfl
    rw [isCopy] at evaluated ⊢
    obtain ⟨value, middle, yields⟩ := valued.copy evaluated
    obtain ⟨copied, last, copies, isNew, contents⟩ := yields.exists_copy type.implementation []
    cases evaluated.symm.trans copies.eval
    refine .inl ⟨fun shares => shares.1 direct, isNew, copies, value, middle, yields, ?_⟩
    rw [contents, Content.copied_isUnique_copied]
  · rw [storedExpr_of_ne_direct direct] at evaluated ⊢
    rcases valued stored after evaluated with isContainer | isNull
    · have yields := Expr.yields_of_eval evaluated isContainer
      rcases yields.read_or_new with ⟨reads, same⟩ | ⟨isNew, isNormal⟩
      · exact .inr ⟨direct, same, reads, .inl isContainer⟩
      · exact .inl ⟨not_sharesValue_of_yields yields isNew, isNew, yields, stored, after, yields,
          isNormal⟩
    · cases evaluated.symm.trans isNull.eval
      exact .inr ⟨direct, rfl, isNull, .inr rfl⟩

theorem exists_yields_storedExpr {value : RunValue} {after : Memory}
    (yields : source.valueExpr.Yields state.bindings state.memory kind value after)
    (type : JavaType) : ∃ stored last,
      (storedExpr type source).Yields state.bindings state.memory kind stored last := by
  unfold storedExpr
  split
  · exact ⟨_, _, yields.copy⟩
  · exact ⟨value, after, yields⟩

theorem sharesValue_iff_of_reads {stored : RunValue} (wellFormed : state.WellFormed)
    (shared : source.kind ≠ .direct)
    (reads : source.valueExpr.Reads state.bindings state.memory.objects stored) :
    source.SharesValue kind state ↔
      stored.IsContainer kind ∧ ¬ (state.memory.content stored).IsEmpty := by
  constructor
  · rintro ⟨_, value, after, evaluated, isContainer, _, notEmpty⟩
    cases evaluated.symm.trans reads.eval
    exact ⟨isContainer, notEmpty⟩
  · rintro ⟨isContainer, notEmpty⟩
    exact ⟨shared, stored, state.memory, reads.eval, isContainer, reads.isBelow wellFormed,
      notEmpty⟩

/-- Where the slot held null, a value was stored. A second run that finds a container there merges
the value into it, and only a shared container is spoilt by that. -/
theorem replace_again (backs : slot.Backs property kind target state)
    (wellFormed : state.WellFormed) (isRead : slot.IsReadBy state.memory read.getter)
    (isWritten : slot.IsWrittenBy state.memory setter) (isNull : slot.value state.memory = .null)
    (hasKind : read.type.container = some kind)
    (notUsed : read.localName ∉ source.valueExpr.usedNames)
    (targetNotUsed : read.localName ∉ target.usedNames)
    (valued : source.valueExpr.IsContainerValued kind state)
    (firstRun : Stmt.execAll (read.merge target source.valueExpr
      [.expression (.call target setter [storedExpr type source])]) state = .ok first) :
    ∃ second, Stmt.execAll (read.merge target source.valueExpr
        [.expression (.call target setter [storedExpr type source])]) first = .ok second ∧
      (second.memory.content (slot.value second.memory) =
        first.memory.content (slot.value first.memory) ↔ ¬ source.SharesValue kind state) := by
  have backsBound := backs.bind targetNotUsed .null
  have storedNotUsed : read.localName ∉ (storedExpr type source).usedNames := by
    rwa [usedNames_storedExpr]
  have stores := firstRun
  rw [execAll_merge backs.target isRead, if_pos isNull, isNull] at stores
  obtain ⟨stored, after, evaluated⟩ := exists_eval_of_execAll_set backsBound.target stores
  replace evaluated := (Expr.eval_bind storedNotUsed ..).symm.trans evaluated
  rcases storedExpr_cases valued evaluated with
    ⟨notShared, isNew, isStored, value, middle, yields, settled⟩ |
    ⟨shared, rfl, reads, isContainer | rfl⟩
  · cases firstRun.symm.trans (execAll_storeAbsent read backs.target isRead isNull isWritten
      targetNotUsed storedNotUsed evaluated isStored.extends.objects _)
    obtain ⟨again, last, yieldsAgain, sameContent⟩ :=
      backs.yields_of_stored_new wellFormed isNull isStored.extends isNew yields
    obtain ⟨second, runs, contents⟩ := backs.exists_merge_of_stored isRead hasKind notUsed
      targetNotUsed isStored.extends isStored.isContainer (isStored.isBelow wellFormed) yieldsAgain
      _
    refine ⟨second, runs, iff_of_true ?_ notShared⟩
    rw [contents, sameContent, settled, Slot.value_store, Slot.content_store]
  · -- The second run clears the shared container, and with it the value.
    cases firstRun.symm.trans (execAll_storeAbsent read backs.target isRead isNull isWritten
      targetNotUsed storedNotUsed evaluated rfl _)
    have readsAgain : source.valueExpr.Reads state.bindings
        ((slot.store stored state.memory).clear stored).objects stored := by
      rw [Memory.objects_clear]
      rcases reads.store backs.ne_object stored with same | ⟨_, same⟩
      · exact same
      · exact same
    obtain ⟨second, runs, contents⟩ := backs.exists_merge_of_stored isRead hasKind notUsed
      targetNotUsed (.refl _) isContainer (reads.isBelow wellFormed)
      (.read readsAgain isContainer) [.expression (.call target setter [storedExpr type source])]
    refine ⟨second, runs, ?_⟩
    rw [contents, Memory.content_clear_self, Slot.content_store, Content.copied_cleared,
      Slot.value_store, Slot.content_store, sharesValue_iff_of_reads wellFormed shared reads,
      not_and, not_not]
    exact ⟨fun isEmpty _ => isEmpty, fun isEmpty => isEmpty isContainer⟩
  · have unchanged : slot.store .null state.memory = state.memory := by
      rw [← isNull, slot.store_value]
    have again := execAll_storeAbsent read backsBound.target isRead isNull isWritten targetNotUsed
      storedNotUsed ((Expr.eval_bind storedNotUsed ..).trans evaluated) rfl source.valueExpr
    cases firstRun.symm.trans (execAll_storeAbsent read backs.target isRead isNull isWritten
      targetNotUsed storedNotUsed evaluated rfl _)
    rw [unchanged]
    refine ⟨_, again, iff_of_true ?_ ?_⟩
    · exact congrArg (fun memory => memory.content (slot.value memory)) unchanged
    · rw [sharesValue_iff_of_reads wellFormed shared reads]
      exact fun isShared => nomatch isShared.1

theorem storedExpr_isContainerValued (valued : source.valueExpr.IsContainerValued kind state)
    (type : JavaType) : (storedExpr type source).IsContainerValued kind state := by
  intro stored after evaluated
  rcases storedExpr_cases valued evaluated with
    ⟨_, _, isStored, _⟩ | ⟨shared, _, reads, isContainer | rfl⟩
  · exact .inl isStored.isContainer
  · exact .inl isContainer
  · rw [storedExpr_of_ne_direct shared]
    exact .inr reads

theorem exists_first_of_tags (kind : ValueKind) :
    ∃ name first, name ∉ Tagged.scope.names ∧
      ((build .forUpdate Tagged.property (Tagged.value kind) none).run.run Tagged.scope).1 =
        .ok ((WriteStrategy.mergeOrReplace "setTags" "getTags").node Tagged.setOfTexts .forUpdate
          (Tagged.value kind) name) ∧
      Stmt.execAll (ContainerRead.merge ⟨"getTags", Tagged.setOfTexts, name⟩ (.var "target")
        (Tagged.value kind).valueExpr [.expression (.call (.var "target") "setTags"
          [storedExpr Tagged.setOfTexts (Tagged.value kind)])]) (Tagged.state .null) =
        .ok first := by
  have backs := Tagged.backs (.inl rfl)
  obtain ⟨name, isNew, built⟩ := exists_node_of_chosen (Tagged.select_eq kind) Tagged.scope
  have free : name ∉ Tagged.scope.names := isNew (Option.some_ne_none _)
  obtain ⟨stored, after, isStored⟩ := exists_yields_storedExpr
    (.read (Tagged.value_reads .null kind) rfl) Tagged.setOfTexts
  refine ⟨name, _, free, built, execAll_storeAbsent _ backs.target (backs.getter _ rfl) rfl
    (backs.setter _ rfl) (fun used => free ((Tagged.inScope kind).1 name used)) ?_ isStored.eval
    isStored.extends.objects _⟩
  rw [usedNames_storedExpr]
  exact fun used => free ((Tagged.inScope kind).2 name used)

/-- An update of a container property that was run once can be run again, and then leaves what the
property holds as it is, unless the first run made the property share a container with the source.
So the update is idempotent exactly where merging or replacing does not meet null at first, or the
value is the source's own, new, empty or null. -/
theorem update_again_iff {options : Options} {strategy : WriteStrategy} {scope : Scope}
    {assignment : Assignment} (updates : options.updateExisting = true)
    (chosen : WriteStrategy.select property options source.kind = .ok strategy)
    (noAdder : ∀ adder element, strategy ≠ .addEach adder element)
    (built : ((build options property source none).run.run scope).1 = .ok assignment)
    (targetInScope : target.IsBoundIn scope.names)
    (valueInScope : source.valueExpr.IsBoundIn scope.names)
    (wellFormed : state.WellFormed) (backs : slot.Backs property kind target state)
    (valued : source.valueExpr.IsContainerValued kind state)
    (firstRun : Stmt.execAll (assignment.lower target) state = .ok first) :
    ∃ second, Stmt.execAll (assignment.lower target) first = .ok second ∧
      (second.memory.content (slot.value second.memory) =
          first.memory.content (slot.value first.memory) ↔
        ¬ ((∃ setter getter, strategy = .mergeOrReplace setter getter) ∧
          slot.value state.memory = .null ∧ source.SharesValue kind state)) := by
  have supported := WriteStrategy.select_supports chosen
  obtain ⟨name, isNew, made⟩ := exists_node_of_chosen chosen scope
  cases built.symm.trans made
  cases strategy with
  | addEach adder element => exact absurd rfl (noAdder adder element)
  | set setter copy =>
    obtain ⟨hasSetter, rfl⟩ := supported
    have container : property.type.isContainer = true := by
      rw [JavaType.isContainer, backs.container]
      rfl
    rw [container, Bool.true_and, lower_node_set] at firstRun ⊢
    obtain ⟨second, runs, same⟩ := backs.set_again wellFormed (backs.setter setter hasSetter)
      (storedExpr_isContainerValued valued property.type) firstRun
    exact ⟨second, runs, iff_of_true same fun ⟨⟨_, _, merges⟩, _⟩ => nomatch merges⟩
  | mergeInto getter =>
    have free : name ∉ scope.names := isNew (Option.some_ne_none _)
    have targetNotUsed : name ∉ target.usedNames := fun used => free (targetInScope name used)
    have isRead := backs.getter getter supported.2
    rw [lower_node_mergeInto updates] at firstRun ⊢
    have isKept : slot.IsKeptBy (ContainerRead.merge ⟨getter, property.type, name⟩ target
        source.valueExpr []) first := by
      rcases backs.holds with isNull | isContainer
      · exact backs.skip_again isRead isNull targetNotUsed firstRun
      · exact backs.merge_again wellFormed isRead isContainer backs.container
          (fun used => free (valueInScope name used)) targetNotUsed firstRun
    obtain ⟨second, runs, same⟩ := isKept
    exact ⟨second, runs, iff_of_true same fun ⟨⟨_, _, merges⟩, _⟩ => nomatch merges⟩
  | mergeOrReplace setter getter =>
    obtain ⟨_, hasSetter, hasGetter, _⟩ := supported
    have free : name ∉ scope.names := isNew (Option.some_ne_none _)
    have notUsed : name ∉ source.valueExpr.usedNames := fun used => free (valueInScope name used)
    have targetNotUsed : name ∉ target.usedNames := fun used => free (targetInScope name used)
    have isRead := backs.getter getter hasGetter
    rw [lower_node_mergeOrReplace] at firstRun ⊢
    rcases backs.holds with isNull | isContainer
    · obtain ⟨second, runs, same⟩ := replace_again backs wellFormed isRead
        (backs.setter setter hasSetter) isNull backs.container notUsed targetNotUsed valued firstRun
      refine ⟨second, runs, same.trans (not_congr ?_)⟩
      exact ⟨fun shares => ⟨⟨setter, getter, rfl⟩, isNull, shares⟩, fun shares => shares.2.2⟩
    · obtain ⟨second, runs, same⟩ := backs.merge_again wellFormed isRead isContainer
        backs.container notUsed targetNotUsed firstRun
      exact ⟨second, runs, iff_of_true same fun shares => isContainer.ne_null shares.2.1⟩

end

/-- Where the target has no tags at first, two runs leave it with the source's tags after each. -/
theorem update_again_tags :
    ∃ assignment first second,
      ((build .forUpdate Tagged.property (Tagged.value .direct) none).run.run Tagged.scope).1 =
        .ok assignment ∧
      Stmt.execAll (assignment.lower (.var "target")) (Tagged.state .null) = .ok first ∧
      Stmt.execAll (assignment.lower (.var "target")) first = .ok second ∧
      second.memory.content (Tagged.slot.value second.memory) =
        first.memory.content (Tagged.slot.value first.memory) := by
  obtain ⟨name, first, _, built, firstRun⟩ := exists_first_of_tags .direct
  rw [← lower_node_mergeOrReplace _ _ _ .forUpdate] at firstRun
  have wellFormed : (Tagged.state .null).WellFormed := Tagged.wellFormed trivial
  have noAdder (adder : String) (element : JavaType) :
      WriteStrategy.mergeOrReplace "setTags" "getTags" ≠ .addEach adder element := by
    rintro ⟨⟩
  obtain ⟨second, secondRun, same⟩ := update_again_iff rfl (Tagged.select_eq .direct) noAdder built
    (Tagged.inScope .direct).1 (Tagged.inScope .direct).2 wellFormed (Tagged.backs (.inl rfl))
    (Tagged.value_isContainerValued .null .direct) firstRun
  exact ⟨_, first, second, built, firstRun, secondRun, same.mpr fun shares => shares.2.2.1 rfl⟩

/-- Converted tags are stored as they are. The second run clears them, and the source is left
without tags too. -/
theorem update_spoils_shared_tags :
    WriteStrategy.select Tagged.property .forUpdate (Tagged.value .converted).kind =
        .ok (.mergeOrReplace "setTags" "getTags") ∧
      (Tagged.state .null).WellFormed ∧
      Tagged.slot.Backs Tagged.property .sequence (.var "target") (Tagged.state .null) ∧
      (Tagged.value .converted).valueExpr.IsContainerValued .sequence (Tagged.state .null) ∧
      ∃ assignment first second,
        ((build .forUpdate Tagged.property (Tagged.value .converted) none).run.run
          Tagged.scope).1 = .ok assignment ∧
        Stmt.execAll (assignment.lower (.var "target")) (Tagged.state .null) = .ok first ∧
        Stmt.execAll (assignment.lower (.var "target")) first = .ok second ∧
        second.memory.content (Tagged.slot.value second.memory) ≠
          first.memory.content (Tagged.slot.value first.memory) := by
  have wellFormed : (Tagged.state .null).WellFormed := Tagged.wellFormed trivial
  have backs := Tagged.backs (.inl rfl)
  have valued := Tagged.value_isContainerValued .null .converted
  refine ⟨Tagged.select_eq .converted, wellFormed, backs, valued, ?_⟩
  obtain ⟨name, first, free, built, firstRun⟩ := exists_first_of_tags .converted
  obtain ⟨second, secondRun, same⟩ := replace_again backs wellFormed (backs.getter _ rfl)
    (backs.setter _ rfl) rfl rfl (fun used => free ((Tagged.inScope .converted).2 name used))
    (fun used => free ((Tagged.inScope .converted).1 name used)) valued firstRun
  have notEmpty : ¬ ((Tagged.state .null).memory.content (.sequence 3)).IsEmpty := by
    rintro ⟨⟩
  rw [← lower_node_mergeOrReplace _ _ _ .forUpdate] at firstRun secondRun
  refine ⟨_, first, second, built, firstRun, secondRun, fun equal => same.mp equal ?_⟩
  have shared : (Tagged.value .converted).kind ≠ .direct := by
    rintro ⟨⟩
  rw [sharesValue_iff_of_reads wellFormed shared (Tagged.value_reads .null .converted)]
  exact ⟨rfl, notEmpty⟩

end Assignment

end PropertyAssignment
