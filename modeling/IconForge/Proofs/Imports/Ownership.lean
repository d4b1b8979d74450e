import IconForge.Proofs.Imports.Growth

/-!
# One owner for every name

The calls on an import table that starts empty, in any order and with any arguments. After them, no
name belongs to two things (`Session.after_oneOwner`): names that the file declares, simple names of
imported symbols and aliases are pairwise different, and so are the names by which symbols with
different import paths are spelled.
-/

namespace IconForge

/-- What follows the imported name when a symbol is spelled: a nested member, if it is one. -/
def Symbol.memberSuffix (symbol : Symbol) : String :=
  match symbol.enclosing with
  | some _ => "." ++ symbol.name
  | none => ""

namespace ImportTable

/-- The imported name that the spelling of a symbol begins with. -/
def head (table : ImportTable) (symbol : Symbol) : String :=
  (table.alias? symbol.importPath).getD symbol.importName

theorem spelling_eq (table : ImportTable) {symbol : Symbol} (h : symbol.isExtension = false) :
    table.spelling symbol = table.head symbol ++ symbol.memberSuffix := by
  unfold spelling head Symbol.memberSuffix
  rw [h]
  cases symbol.enclosing with
  | none => simp
  | some enclosing => simp [String.append_assoc]

theorem spelling_extension (table : ImportTable) {symbol : Symbol} (h : symbol.isExtension = true) :
    table.spelling symbol = symbol.name := by
  simp [spelling, h]

/-- The name of a bound symbol is its alias, or it has none and owns its simple name. -/
theorem Binds.head_cases {table : ImportTable} {symbol : Symbol} (h : table.Binds symbol) :
    table.alias? symbol.importPath = some (table.head symbol) ∨
      table.alias? symbol.importPath = none ∧ table.head symbol = symbol.importName ∧
        table.owner? symbol.importName = some (.imported symbol.importPath) := by
  unfold head
  cases halias : table.alias? symbol.importPath with
  | some name => exact .inl rfl
  | none =>
    rcases h with ⟨name, hname⟩ | howner
    · rw [hname] at halias
      cases halias
    · exact .inr ⟨rfl, rfl, howner⟩

/-- A table with a record of the calls on it that succeeded. -/
structure Session where
  table : ImportTable
  /-- The names that the file declares. -/
  declared : List String
  /-- The symbols that were adopted, given an alias or referred to. -/
  registered : List Symbol

namespace Session

/-- Makes a call. One that fails leaves everything as it was. -/
def call (session : Session) : Call → Session
  | .declare name =>
    match session.table.declare name with
    | .ok table => ⟨table, name :: session.declared, session.registered⟩
    | .error _ => session
  | .adopt symbol =>
    match session.table.adopt symbol with
    | .ok table => ⟨table, session.declared, symbol :: session.registered⟩
    | .error _ => session
  | .assignAlias symbol marker =>
    ⟨(session.table.assignAlias symbol marker).2, session.declared, symbol :: session.registered⟩
  | .reference symbol =>
    ⟨(session.table.reference symbol).2, session.declared, symbol :: session.registered⟩

/-- The calls made from a new table for a package. -/
def after (package : String) (calls : List Call) : Session :=
  calls.foldl call ⟨.empty package, [], []⟩

theorem after_append (package : String) (calls further : List Call) :
    after package (calls ++ further) = further.foldl call (after package calls) :=
  List.foldl_append

theorem call_grows (session : Session) (next : Call) :
    session.table.Grows next (session.call next).table := by
  cases next with
  | declare name =>
    simp only [call]
    split
    · next hdeclare => exact (declare_ok hdeclare).1
    · exact .same _
  | adopt symbol =>
    simp only [call]
    split
    · next hadopt => exact (adopt_ok hadopt).1
    · exact .same _
  | assignAlias symbol marker => exact (session.table.assignAlias_spec _ rfl marker).1
  | reference symbol => exact (session.table.reference_spec symbol).1

/-- A property of the empty table that the growth in every one of the calls keeps holds after
them. -/
theorem after_induction {P : ImportTable → Prop} {package : String} (hstart : P (.empty package))
    (calls : List Call)
    (hgrow : ∀ next ∈ calls, ∀ {table grown : ImportTable},
      table.Grows next grown → P table → P grown) : P (after package calls).table := by
  induction calls using List.reverseRecOn with
  | nil => exact hstart
  | append_singleton calls next ih =>
    rw [after_append]
    refine hgrow next (by simp) (call_grows _ next) (ih fun other hmem => ?_)
    exact hgrow other (List.mem_append_left _ hmem)

end Session

variable {table grown : ImportTable} {next : Call}

theorem Grows.visibleNames_nodup (h : Grows table next grown) (hnames : table.visibleNames.Nodup) :
    grown.visibleNames.Nodup := by
  cases h with
  | declare name free => exact List.nodup_cons.mpr ⟨free, hnames⟩
  | own subject free => exact List.nodup_cons.mpr ⟨free, hnames⟩
  | assign subject name free fresh =>
    exact List.nodup_middle.mpr (List.nodup_cons.mpr ⟨free, hnames⟩)
  | _ => exact hnames

theorem Grows.aliasPaths_nodup (h : Grows table next grown)
    (hpaths : (table.aliases.map Prod.fst).Nodup) : (grown.aliases.map Prod.fst).Nodup := by
  cases h with
  | assign subject name free fresh =>
    exact List.nodup_cons.mpr ⟨fun hmem => lookup_ne_none hmem fresh, hpaths⟩
  | _ => exact hpaths

namespace Session

theorem visibleNames_nodup (package : String) (calls : List Call) :
    (after package calls).table.visibleNames.Nodup :=
  after_induction List.nodup_nil calls fun _ _ _ _ hgrow => hgrow.visibleNames_nodup

theorem aliasPaths_nodup (package : String) (calls : List Call) :
    ((after package calls).table.aliases.map Prod.fst).Nodup :=
  after_induction List.nodup_nil calls fun _ _ _ _ hgrow => hgrow.aliasPaths_nodup

/-- The table holds what the record says. -/
structure Recorded (session : Session) : Prop where
  binds : ∀ symbol ∈ session.registered, symbol.isExtension = false → session.table.Binds symbol
  declares : ∀ name ∈ session.declared, session.table.owner? name = some .declared

theorem Recorded.grow {session : Session} (h : Recorded session)
    (hgrow : session.table.Grows next grown) :
    Recorded ⟨grown, session.declared, session.registered⟩ :=
  ⟨fun symbol hmem hext => hgrow.binds (h.binds symbol hmem hext),
    fun name hmem => hgrow.owner? (h.declares name hmem)⟩

theorem Recorded.register {session : Session} (h : Recorded session) {symbol : Symbol}
    (hbinds : symbol.isExtension = false → session.table.Binds symbol) :
    Recorded ⟨session.table, session.declared, symbol :: session.registered⟩ := by
  refine ⟨fun other hmem hext => ?_, h.declares⟩
  rcases List.mem_cons.mp hmem with rfl | hmem
  · exact hbinds hext
  · exact h.binds other hmem hext

theorem Recorded.call {session : Session} (h : Recorded session) (next : Call) :
    Recorded (session.call next) := by
  cases next with
  | declare name =>
    simp only [Session.call]
    split
    · next table hdeclare =>
      obtain ⟨hgrow, howner⟩ := declare_ok hdeclare
      refine ⟨(h.grow hgrow).binds, fun other hmem => ?_⟩
      rcases List.mem_cons.mp hmem with rfl | hmem
      · exact howner
      · exact (h.grow hgrow).declares other hmem
    · exact h
  | adopt symbol =>
    simp only [Session.call]
    split
    · next table hadopt =>
      obtain ⟨hgrow, howner⟩ := adopt_ok hadopt
      exact (h.grow hgrow).register fun _ => .inr howner
    · exact h
  | assignAlias symbol marker =>
    obtain ⟨hgrow, halias⟩ :=
      session.table.assignAlias_spec (.assignAlias symbol marker) rfl marker
    exact (h.grow hgrow).register fun _ => .inl ⟨_, halias⟩
  | reference symbol =>
    obtain ⟨hgrow, hbinds⟩ := session.table.reference_spec symbol
    refine (h.grow hgrow).register fun hext => ?_
    simpa [hext] using hbinds

theorem after_recorded (package : String) (calls : List Call) : Recorded (after package calls) := by
  induction calls using List.reverseRecOn with
  | nil => exact ⟨by simp [after], by simp [after]⟩
  | append_singleton calls next ih =>
    rw [after_append]
    exact ih.call next

end Session

theorem owned_ne_alias (hnames : table.visibleNames.Nodup) {name : String}
    (howned : name ∈ table.owners.map Prod.fst) : name ∉ table.aliases.map Prod.snd :=
  fun halias => (List.nodup_append.mp hnames).2.2 name howned name halias rfl

theorem alias_injective (hnames : table.visibleNames.Nodup) {first second : String × String}
    (hfirst : first ∈ table.aliases) (hsecond : second ∈ table.aliases)
    (h : first.2 = second.2) : first = second :=
  List.inj_on_of_nodup_map (List.nodup_append.mp hnames).2.1 hfirst hsecond h

theorem owned_of_owner? {name : String} {owner : NameOwner} (h : table.owner? name = some owner) :
    name ∈ table.owners.map Prod.fst :=
  List.mem_map.mpr ⟨_, mem_of_lookup h, rfl⟩

theorem owner?_ne_alias? (hnames : table.visibleNames.Nodup) {path first second : String}
    {owner : NameOwner} (hfirst : table.owner? first = some owner)
    (hsecond : table.alias? path = some second) : first ≠ second := by
  rintro rfl
  exact owned_ne_alias hnames (owned_of_owner? hfirst)
    (List.mem_map.mpr ⟨_, mem_of_lookup hsecond, rfl⟩)

/-- Bound symbols that are spelled with the same imported name have the same path. -/
theorem importPath_eq_of_head_eq (hnames : table.visibleNames.Nodup) {first second : Symbol}
    (hfirst : table.Binds first) (hsecond : table.Binds second)
    (h : table.head first = table.head second) : first.importPath = second.importPath := by
  rcases hfirst.head_cases with hf | ⟨-, hf, howner⟩
  · rcases hsecond.head_cases with hs | ⟨-, hs, howner'⟩
    · rw [← h] at hs
      have heq := alias_injective hnames (mem_of_lookup hf) (mem_of_lookup hs) rfl
      exact congrArg Prod.fst heq
    · rw [hs] at h
      exact absurd h.symm (owner?_ne_alias? hnames howner' hf)
  · rcases hsecond.head_cases with hs | ⟨-, hs, howner'⟩
    · rw [hf] at h
      exact absurd h (owner?_ne_alias? hnames howner hs)
    · rw [hf, hs] at h
      rw [h, howner'] at howner
      exact (NameOwner.imported.inj (Option.some.inj howner)).symm

theorem head_ne_of_declared (hnames : table.visibleNames.Nodup) {symbol : Symbol} {name : String}
    (hsymbol : table.Binds symbol) (hname : table.owner? name = some .declared) :
    table.head symbol ≠ name := by
  rcases hsymbol.head_cases with halias | ⟨-, hhead, howner⟩
  · exact (owner?_ne_alias? hnames hname halias).symm
  · rintro heq
    rw [← heq, hhead, howner] at hname
    cases hname

namespace Session

/-- Every simple name belongs to one thing: a declaration of the file, one import path under its
simple name, or one import path under an alias. -/
structure OneOwner (session : Session) : Prop where
  /-- No owned name is an alias. -/
  owned_ne_alias : ∀ name ∈ session.table.owners.map Prod.fst,
    name ∉ session.table.aliases.map Prod.snd
  /-- Different paths have different aliases. -/
  alias_injective : ∀ first ∈ session.table.aliases, ∀ second ∈ session.table.aliases,
    first.1 ≠ second.1 → first.2 ≠ second.2
  /-- A symbol is spelled by its imported name and what follows it. -/
  spelled : ∀ symbol, symbol.isExtension = false →
    session.table.spelling symbol = session.table.head symbol ++ symbol.memberSuffix
  /-- Symbols with different paths are spelled with different imported names. -/
  heads_ne : ∀ first ∈ session.registered, ∀ second ∈ session.registered,
    first.isExtension = false → second.isExtension = false →
      first.importPath ≠ second.importPath →
        session.table.head first ≠ session.table.head second
  /-- No symbol is spelled with a name that the file declares. -/
  head_ne_declared : ∀ symbol ∈ session.registered, symbol.isExtension = false →
    ∀ name ∈ session.declared, session.table.head symbol ≠ name

theorem after_oneOwner (package : String) (calls : List Call) :
    OneOwner (after package calls) := by
  have hnames := visibleNames_nodup package calls
  have hrecord := after_recorded package calls
  constructor
  case owned_ne_alias =>
    intro name howned
    exact ImportTable.owned_ne_alias hnames howned
  case alias_injective =>
    intro first hfirst second hsecond hne h
    exact hne (congrArg Prod.fst (ImportTable.alias_injective hnames hfirst hsecond h))
  case spelled =>
    intro symbol hext
    exact spelling_eq _ hext
  case heads_ne =>
    intro first hfirst second hsecond hext hext' hne h
    exact hne (importPath_eq_of_head_eq hnames (hrecord.binds first hfirst hext)
      (hrecord.binds second hsecond hext') h)
  case head_ne_declared =>
    intro symbol hsymbol hext name hname
    exact head_ne_of_declared hnames (hrecord.binds symbol hsymbol hext)
      (hrecord.declares name hname)

end Session
end ImportTable
end IconForge
