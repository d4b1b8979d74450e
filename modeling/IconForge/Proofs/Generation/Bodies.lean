import IconForge.Proofs.DrawingCode.Nodes
import IconForge.Proofs.Generation.Failures

/-!
# Bodies of generated files

The bodies of all files of a run are well formed (`bodies_isWellFormed`), whatever texts the user
has chosen: the blocks of properties, builder functions and collections are put together from
outlined ones.
-/

namespace IconForge

open CodeBlock (IsOutlined)
open Template (IsBuilt ofText)

/-! ### Parts of properties -/

namespace LazyProperty

theorem isOutlined_getter (slot : String) (marker? : Option Symbol) {initial : Template}
    (h : initial.IsBuilt) : (getter slot marker? initial).IsOutlined := by
  have hreturn : IsOutlined [.statement (ofText "return " ++ .name slot ++ ofText "!!")] :=
    .statement (IsBuilt.isMatched (by simp))
  have hassign : IsOutlined [.statement (.name slot ++ ofText " = " ++ initial)] :=
    .statement (IsBuilt.isMatched (by simp [h]))
  have hcheck : (ofText "if (" ++ .name slot ++ ofText " != null)").IsMatched :=
    IsBuilt.isMatched (by simp)
  have hempty := Template.isBuilt_empty.isMatched
  have hget := IsOutlined.braces (Template.isBuilt_ofText "get()").isMatched
    ((IsOutlined.braces hcheck hreturn hempty).append (hassign.append hreturn)) hempty
  cases marker? with
  | none => exact hget
  | some symbol =>
    have hmarker : IsOutlined [.statement (ofText "@" ++ .typeName symbol)] :=
      .statement (IsBuilt.isMatched (by simp))
    exact hmarker.append hget

theorem isOutlined_slotDeclaration (slot : String) {type : Template} (h : type.IsBuilt) :
    (slotDeclaration slot type).IsOutlined :=
  .statement (IsBuilt.isMatched (by simp [h]))

end LazyProperty

/-! ### Icons -/

namespace IconDeclaration

variable {declaration : IconDeclaration}

theorem property_ok (declaration : IconDeclaration) (groupClass : Symbol) (style : CodeStyle) :
    ∃ block, declaration.property groupClass style = .ok block ∧ block.IsOutlined := by
  have hhead : Template.IsMatched ⟨"public val %T.%N: %T",
      [.typeName groupClass, .name declaration.publicName, .typeName style.iconType]⟩ := by
    simp [Template.IsMatched, placeholders, Argument.marker]
  have hinitial : (.typeName style.iconType ++ ofText "(imageVector = \x7b " ++
      .name declaration.builderName ++ ofText "(it) \x7d)" : Template).IsBuilt := by simp
  have hgetter := LazyProperty.isOutlined_getter declaration.slot none hinitial
  exact ⟨_, rfl, (IsOutlined.statement hhead).append hgetter.indented⟩

theorem buildFunction_ok (h : declaration.body.IsOutlined) (style : CodeStyle) :
    ∃ block, declaration.buildFunction style = .ok block ∧ block.IsOutlined := by
  have hhead : Template.IsMatched ⟨"private fun %N(%N: %T): %T",
      [.name declaration.builderName, .name style.colorSchemeParam, .typeName style.colorsType,
        .typeName DrawingLibrary.imageVector]⟩ := by
    simp [Template.IsMatched, placeholders, Argument.marker]
  exact ⟨_, rfl, .braces hhead h Template.isBuilt_empty.isMatched⟩

theorem members_ok (h : declaration.body.IsOutlined) (groupClass : Symbol) (style : CodeStyle) :
    ∃ members, declaration.members groupClass style = .ok members ∧
      (CodeBlock.joinMembers members).IsOutlined := by
  obtain ⟨property, hproperty, houtline⟩ := property_ok declaration groupClass style
  obtain ⟨function, hfunction, houtline'⟩ := buildFunction_ok h style
  have hslot := LazyProperty.isOutlined_slotDeclaration declaration.slot
    (Template.isBuilt_typeName style.iconType)
  refine ⟨[property, LazyProperty.slotDeclaration declaration.slot (.typeName style.iconType),
    function], ?_, .joinMembers ?_⟩
  · simp [members, hproperty, hfunction]
  · simp [houtline, hslot, houtline']

theorem isOutlined_body {context : CodeContext} {name slot : String} {drawing : VectorDrawing}
    (h : build context name drawing slot = .ok declaration) : declaration.body.IsOutlined := by
  simp only [build, bind_eq_ok_iff, pure_eq_ok_iff] at h
  obtain ⟨body, hbody, rfl⟩ := h
  exact DrawingCode.isOutlined_drawingBlock hbody

end IconDeclaration

/-! ### Collections -/

namespace GroupCollection

@[simp] theorem isBuilt_listType (style : CodeStyle) : (listType style).IsBuilt := by
  simp [listType]

@[simp] theorem isBuilt_childTerm (collection : String) (child : Symbol) :
    (childTerm collection child).IsBuilt := by
  simp [childTerm]

@[simp] theorem isBuilt_iconTerm (icons : List Symbol) : (iconTerm icons).IsBuilt := by
  have hjoin : (Template.join ", " (icons.map Template.member)).IsBuilt := .join _ (by simp)
  simp [iconTerm, hjoin]

theorem isBuilt_initialValue (collection : String) (icons children : List Symbol) :
    (initialValue collection icons children).IsBuilt := by
  refine .join _ fun t ht => ?_
  rcases List.mem_append.mp ht with hchild | hicons
  · obtain ⟨child, -, rfl⟩ := List.mem_map.mp hchild
    exact isBuilt_childTerm collection child
  · obtain rfl := List.mem_singleton.mp hicons
    exact isBuilt_iconTerm icons

theorem isOutlined_members (container : Symbol) (collection slot : String) (style : CodeStyle)
    (icons children : List Symbol) :
    (CodeBlock.joinMembers
      (members container collection slot style icons children)).IsOutlined := by
  have hslot := LazyProperty.isOutlined_slotDeclaration slot (isBuilt_listType style)
  have hhead : (ofText "public val " ++ .typeName container ++ ofText "." ++ .name collection ++
      ofText ": " ++ listType style).IsMatched := IsBuilt.isMatched (by simp)
  have hgetter := LazyProperty.isOutlined_getter slot (some style.composable)
    (isBuilt_initialValue collection icons children)
  have hproperty := (IsOutlined.statement hhead).append hgetter.indented
  refine .joinMembers fun member hmember => ?_
  rcases List.mem_pair.mp hmember with rfl | rfl
  · exact hslot
  · exact hproperty

end GroupCollection

/-! ### Classes -/

namespace Generator

def objectDeclaration (name : String) : CodeBlock :=
  [.statement (ofText "public object " ++ .name name)]

theorem isOutlined_objectDeclaration (name : String) : (objectDeclaration name).IsOutlined :=
  .statement (IsBuilt.isMatched (by simp))

end Generator

/-! ### No mismatch -/

theorem IconDeclaration.toSourceFile_error {declaration : IconDeclaration}
    (h : declaration.body.IsOutlined) {package : String} {groupClass : Symbol} {style : CodeStyle}
    {cause : FailureCause}
    (herror : declaration.toSourceFile package groupClass style = .error cause) :
    ∃ collision, cause = .collision collision := by
  obtain ⟨members, hmembers, -⟩ := members_ok h groupClass style
  simp only [toSourceFile, hmembers, bind_eq_error_iff, mapError_eq_error_iff] at herror
  rcases herror with ⟨collision, -, rfl⟩ | ⟨taken, -, herror⟩
  · exact ⟨collision, rfl⟩
  · simp [Except.mapError] at herror

/-- An icon whose drawing is read fails for a gradient without stops or a clash of names. -/
theorem Generator.generateIcon_error {generator : Generator} {package : String}
    {groupClass : Symbol} {source : IconSource} {slot : String} {failure : IconFailure}
    (h : generator.generateIcon package groupClass source slot = .error failure) :
    (∃ error, failure.cause = .source error) ∨
      (∃ place kind, failure.cause = .emission (.malformedFill place kind)) ∨
        ∃ collision, failure.cause = .collision collision := by
  simp only [generateIcon, mapError_eq_error_iff] at h
  obtain ⟨cause, hcause, rfl⟩ := h
  simp only [bind_eq_error_iff, mapError_eq_error_iff, mapError_eq_ok_iff, pure_ne_error, and_false,
    exists_false, or_false] at hcause
  rcases hcause with ⟨error, -, rfl⟩ | ⟨drawing, -, hcause⟩
  · exact .inl ⟨error, rfl⟩
  rcases hcause with ⟨error, herror, rfl⟩ | ⟨declaration, hbuild, hfile⟩
  · simp only [IconDeclaration.build, bind_eq_error_iff, pure_ne_error, and_false, exists_false,
      or_false] at herror
    obtain ⟨place, kind, rfl⟩ := DrawingCode.drawingBlock_error herror
    exact .inr (.inl ⟨place, kind, rfl⟩)
  · exact .inr (.inr (IconDeclaration.toSourceFile_error
      (IconDeclaration.isOutlined_body hbuild) hfile))

/-- The body of every file that is rendered is well formed: of icons, of collections and of classes,
and no run meets a template whose placeholders and arguments differ. -/
theorem bodies_isWellFormed (context : CodeContext) (groupClass : Symbol) :
    (∀ name drawing slot declaration,
      IconDeclaration.build context name drawing slot = .ok declaration →
        ∃ members, (CodeBlock.joinMembers members).IsWellFormed ∧
          declaration.members groupClass context.style = .ok members ∧
            ∀ package, declaration.toSourceFile package groupClass context.style = (do
              let taken ← (declaration.takenNames package groupClass).mapError .collision
              return .ofMembers taken name context.style.indent members)) ∧
      (∀ collection slot icons children,
        (CodeBlock.joinMembers (GroupCollection.members groupClass collection slot context.style
          icons children)).IsWellFormed) ∧
      (∀ collection icons children used built after,
        GroupCollection.build groupClass collection context.style icons children used =
            .ok (built, after) →
          ∃ taken,
            GroupCollection.takenNames groupClass collection built.slot icons children =
                .ok taken ∧
              built.file = .ofMembers taken collection context.style.indent
                (GroupCollection.members groupClass collection built.slot context.style icons
                  children)) ∧
      (CodeBlock.joinMembers [Generator.objectDeclaration groupClass.name]).IsWellFormed ∧
      (∀ parser schedule collection,
        Generator.groupObject ⟨parser, context, schedule, collection⟩ groupClass = (do
          let taken ← (ImportTable.empty groupClass.package).declare groupClass.name
          return .ofMembers taken groupClass.name context.style.indent
            [Generator.objectDeclaration groupClass.name])) ∧
      ∀ parser root accepts config failure mismatch,
        (generateWith parser root accepts config = .error (.icon failure) ∨
          ∃ output, generateWith parser root accepts config = .ok output ∧
            failure ∈ output.failures) →
          failure.cause ≠ .emission (.placeholderMismatch mismatch) := by
  refine ⟨?_, ?_, ?_, ?_, ?_, ?_⟩
  · intro name drawing slot declaration hbuild
    have hbody := IconDeclaration.isOutlined_body hbuild
    obtain ⟨members, hmembers, houtline⟩ :=
      IconDeclaration.members_ok hbody groupClass context.style
    refine ⟨members, houtline.isWellFormed, hmembers, fun package => ?_⟩
    have hname : declaration.publicName = name := by
      simp only [IconDeclaration.build, bind_eq_ok_iff, pure_eq_ok_iff] at hbuild
      obtain ⟨body, -, rfl⟩ := hbuild
      rfl
    rw [IconDeclaration.toSourceFile, hmembers, hname]
    rfl
  · intro collection slot icons children
    exact (GroupCollection.isOutlined_members groupClass collection slot context.style icons
      children).isWellFormed
  · intro collection icons children used built after hbuild
    exact (GroupCollection.build_eq_ok hbuild).2.2
  · have hobject := Generator.isOutlined_objectDeclaration groupClass.name
    exact (IsOutlined.joinMembers (by simpa using hobject)).isWellFormed
  · intro parser schedule collection
    rfl
  · intro parser root accepts config failure mismatch hfailure
    obtain ⟨group, -, source, -, -, slot, herror⟩ := isFailureOf_of_generateWith hfailure
    rcases Generator.generateIcon_error herror with ⟨e, h⟩ | ⟨place, kind, h⟩ | ⟨collision, h⟩ <;>
      simp [h]

/-- An icon with a percent sign in its name and a group in its drawing, a collection of it, and a
run that fails. -/
theorem percentIcon_isWellFormed :
    (∃ declaration members,
      IconDeclaration.build ⟨.empty, .standard⟩ "100%"
        (.square standardSize [.group [.shape ⟨.none, [.close]⟩]]) "_100%" = .ok declaration ∧
      declaration.members (.topLevel "icons" "Icons") .standard = .ok members ∧
      (CodeBlock.joinMembers members).IsWellFormed) ∧
      (∃ built after taken,
        GroupCollection.build (.topLevel "icons" "Icons") "AllIcons" .standard
            [.topLevel "icons" "100%"] [] .empty = .ok (built, after) ∧
          built.file = .ofMembers taken "AllIcons" CodeStyle.standard.indent
            (GroupCollection.members (.topLevel "icons" "Icons") "AllIcons" built.slot .standard
              [.topLevel "icons" "100%"] [])) ∧
      ∃ failure,
        generateWith (fun _ => .error .malformed)
            ⟨"icons", "Icons", [⟨"Folder", "", ""⟩], []⟩ (fun _ => true)
            { GenerationConfig.standard with schedule := ⟨.failFast, false⟩ } =
          .error (.icon failure) ∧
        failure.cause ≠ .emission (.placeholderMismatch ⟨"%S", 1, 0⟩) := by
  obtain ⟨hicons, -, hcollections, -, -, hruns⟩ :=
    bodies_isWellFormed ⟨.empty, .standard⟩ (.topLevel "icons" "Icons")
  refine ⟨?_, ?_, ?_⟩
  · obtain ⟨declaration, hbuild⟩ : ∃ declaration,
        IconDeclaration.build ⟨.empty, .standard⟩ "100%"
          (.square standardSize [.group [.shape ⟨.none, [.close]⟩]]) "_100%" = .ok declaration :=
      ⟨_, rfl⟩
    obtain ⟨members, hwell, hmembers, -⟩ := hicons _ _ _ _ hbuild
    exact ⟨declaration, members, hbuild, hmembers, hwell⟩
  · have hbuilt : (GroupCollection.build (.topLevel "icons" "Icons") "AllIcons" .standard
        [.topLevel "icons" "100%"] [] .empty).toBool = true := by
      decide +kernel
    obtain ⟨⟨built, after⟩, hbuild⟩ := exists_eq_ok_of_toBool hbuilt
    obtain ⟨taken, -, hfile⟩ := hcollections _ _ _ _ _ _ hbuild
    exact ⟨built, after, taken, hbuild, hfile⟩
  · have hfails :
        generateWith (fun _ => .error .malformed)
            ⟨"icons", "Icons", [⟨"Folder", "", ""⟩], []⟩ (fun _ => true)
            { GenerationConfig.standard with schedule := ⟨.failFast, false⟩ } =
          .error (.icon ⟨"Folder", "", .source .malformed⟩) := rfl
    exact ⟨_, hfails, hruns _ _ _ _ _ _ (.inl hfails)⟩

end IconForge
