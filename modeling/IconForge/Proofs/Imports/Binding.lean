import IconForge.Proofs.Code.FileText
import IconForge.Proofs.Imports.NameSources

/-!
# Imports and spellings of a file

Three passes decide how a file refers to its symbols: its import table is filled, its import lines
are written, and its body is rendered. They agree (`SourceFile.ofMembers_bound`): the name that a
symbol is spelled with is bound to the path of the symbol and to that of no other, and if it needs
an import, that is among the lines of the file.

The lines alone say less. An alias that is the simple name of its path stands beside the same name
imported for an extension with that path, and a path with a blank makes a line that reads as that of
another path (`SourceFile.unmarked_sources_not_unique`). Nothing else is in the way.
-/

namespace IconForge
namespace ImportTable

theorem references_grow (session : Session) (symbols : List Symbol) :
    ((symbols.map Call.reference).foldl Session.call session).table =
      symbols.foldl (fun table symbol => (table.reference symbol).2) session.table := by
  induction symbols generalizing session with
  | nil => rfl
  | cons symbol others ih => exact ih (session.call (.reference symbol))

theorem references_declared (session : Session) (symbols : List Symbol) :
    ((symbols.map Call.reference).foldl Session.call session).declared = session.declared := by
  induction symbols generalizing session with
  | nil => rfl
  | cons symbol others ih => exact ih (session.call (.reference symbol))

theorem references_registered (session : Session) (symbols : List Symbol) :
    ((symbols.map Call.reference).foldl Session.call session).registered =
      symbols.reverse ++ session.registered := by
  induction symbols generalizing session with
  | nil => rfl
  | cons symbol others ih =>
    rw [List.map_cons, List.foldl_cons, ih]
    simp [Session.call]

theorem reference_extensions (table : ImportTable) (symbol : Symbol) :
    (table.reference symbol).2.extensions =
      if symbol.isExtension then symbol.importPath :: table.extensions else table.extensions := by
  unfold reference assignAlias own
  grind

theorem mem_references_extensions {symbols : List Symbol} {path : String} (table : ImportTable) :
    path ∈ (symbols.foldl (fun table symbol => (table.reference symbol).2) table).extensions ↔
      path ∈ table.extensions ∨
        ∃ symbol ∈ symbols, symbol.isExtension = true ∧ symbol.importPath = path := by
  induction symbols generalizing table with
  | nil => simp
  | cons symbol others ih =>
    rw [List.foldl_cons, ih, reference_extensions]
    by_cases hext : symbol.isExtension = true
    · rw [if_pos hext, List.mem_cons, or_assoc, or_left_comm, eq_comm]
      simp [hext]
    · simp [hext]

end ImportTable

theorem Argument.render_of_symbol? {argument : Argument} {symbol : Symbol}
    (h : argument.symbol? = some symbol) (imports : ImportTable) :
    argument.render imports = imports.spelling symbol := by
  cases argument <;> simp_all [Argument.symbol?, Argument.render]

namespace SourceFile

open ImportTable

/-- How a file with a body and an import table refers to its symbols, after what a session took for
the file. -/
structure BindsSymbols (session : Session) (body : CodeBlock) (imports : ImportTable) : Prop where
  package : imports.package = session.table.package
  lines : ∀ line, line ∈ imports.lines ↔ ∃ entry ∈ imports.allImports, entry.line = line
  extensions : ∀ path, path ∈ imports.extensions ↔
    path ∈ session.table.extensions ∨
      ∃ symbol ∈ body.symbols, symbol.isExtension = true ∧ symbol.importPath = path
  /-- A symbol argument is written as its imported name and what follows it. -/
  spelled : ∀ argument ∈ body.flatMap (·.template.arguments), ∀ symbol,
    argument.symbol? = some symbol → symbol.isExtension = false →
      argument.render imports = imports.head symbol ++ symbol.memberSuffix
  /-- The imported name comes from exactly one source, by the imports for symbols. -/
  one_source : ∀ symbol ∈ body.symbols, symbol.isExtension = false →
    ∃! source, imports.HasSource (· ∈ imports.symbolImports) symbol source
  line_source : ∀ symbol ∈ body.symbols, symbol.isExtension = false →
    ∃ source, imports.HasSource imports.HasLine symbol source
  /-- An alias that is the simple name stands beside the import of an extension. -/
  doubled : ∀ symbol ∈ body.symbols, symbol.isExtension = false → imports.IsDoubled symbol →
    imports.HasSource imports.HasLine symbol .renamed ∧
      imports.HasSource imports.HasLine symbol .imported
  /-- The imported name is bound to nothing but the path of the symbol. -/
  nothing_else : ∀ symbol ∈ body.symbols, symbol.isExtension = false →
    (∀ entry ∈ imports.symbolImports,
      entry.name = imports.head symbol → entry.path = symbol.importPath) ∧
    ∀ name ∈ session.declared, imports.head symbol ≠ name
  extension_spelled : ∀ argument ∈ body.flatMap (·.template.arguments), ∀ symbol,
    argument.symbol? = some symbol → symbol.isExtension = true →
      argument.render imports = symbol.name
  /-- An extension is imported if and only if it lies in another package. -/
  extension_imported : ∀ symbol ∈ body.symbols, symbol.isExtension = true →
    (⟨symbol.importPath, none⟩ ∈ imports.allImports ↔ symbol.package ≠ session.table.package)
  extension_hasLine_iff : ∀ symbol ∈ body.symbols, symbol.isExtension = true →
    ' ' ∉ symbol.importPath.toList →
      (imports.HasLine ⟨symbol.importPath, none⟩ ↔ symbol.package ≠ session.table.package)
  /-- No import for a symbol brings in a name that the file declares. -/
  undeclared : ∀ entry ∈ imports.symbolImports, entry.name ∉ session.declared
  /-- Imports for symbols that bring in the same name bring in the same path. -/
  one_path : ∀ first ∈ imports.symbolImports, ∀ second ∈ imports.symbolImports,
    first.name = second.name → first.path = second.path

/-- What the import lines of a file say by themselves. -/
structure LinesTell (session : Session) (body : CodeBlock) (imports : ImportTable) : Prop where
  /-- A line says which import it is of. -/
  hasLine_iff : ∀ entry : Import, ' ' ∉ entry.path.toList →
    (imports.HasLine entry ↔ entry ∈ imports.allImports)
  one_source_iff : ∀ symbol ∈ body.symbols, symbol.isExtension = false →
    ' ' ∉ symbol.importPath.toList →
      ((∃! source, imports.HasSource imports.HasLine symbol source) ↔ ¬ imports.IsDoubled symbol)
  /-- A line that brings in the name of a symbol is for that symbol or for an extension. -/
  nothing_else : ∀ symbol ∈ body.symbols, symbol.isExtension = false → ∀ entry : Import,
    ' ' ∉ entry.path.toList → imports.HasLine entry → entry.name = imports.head symbol →
      entry.path = symbol.importPath ∨ entry ∈ imports.extensionImports

section After

variable {package : String} {calls : List Call} {body : CodeBlock} {symbol : Symbol}

theorem importsOf_after (package : String) (calls : List Call) (body : CodeBlock) :
    importsOf (Session.after package calls).table body =
      (Session.after package (calls ++ body.symbols.map .reference)).table := by
  rw [Session.after_append, references_grow]
  rfl

theorem importsOf_isFilled (package : String)
    (hcalls : ∀ next ∈ calls, ∀ symbol ∈ next.symbol?, symbol.IsPlain)
    (hbody : ∀ symbol ∈ body.symbols, symbol.IsPlain) :
    (importsOf (Session.after package calls).table body).IsFilled := by
  rw [importsOf_after]
  refine after_isFilled package fun next hmem subject hsubject => ?_
  rcases List.mem_append.mp hmem with hmem | hmem
  · exact hcalls next hmem subject hsubject
  · obtain ⟨other, hother, rfl⟩ := List.mem_map.mp hmem
    rw [Option.mem_def, Call.symbol?, Option.some.injEq] at hsubject
    exact hsubject ▸ hbody other hother

theorem importsOf_binds (package : String) (calls : List Call) (hmem : symbol ∈ body.symbols)
    (hext : symbol.isExtension = false) :
    (importsOf (Session.after package calls).table body).Binds symbol := by
  rw [importsOf_after]
  refine (Session.after_recorded package _).binds symbol ?_ hext
  rw [Session.after_append, references_registered]
  exact List.mem_append_left _ (List.mem_reverse.mpr hmem)

theorem importsOf_owner?_of_declared {name : String}
    (h : name ∈ (Session.after package calls).declared) :
    (importsOf (Session.after package calls).table body).owner? name = some .declared := by
  rw [importsOf_after]
  refine (Session.after_recorded package _).declares name ?_
  rwa [Session.after_append, references_declared]

theorem mem_importsOf_extensions (taken : ImportTable) {path : String} :
    path ∈ (importsOf taken body).extensions ↔ path ∈ taken.extensions ∨
      ∃ symbol ∈ body.symbols, symbol.isExtension = true ∧ symbol.importPath = path :=
  mem_references_extensions taken

theorem importsOf_bindsSymbols (package : String)
    (hcalls : ∀ next ∈ calls, ∀ symbol ∈ next.symbol?, symbol.IsPlain)
    (hbody : ∀ symbol ∈ body.symbols, symbol.IsPlain) :
    BindsSymbols (Session.after package calls) body
      (importsOf (Session.after package calls).table body) := by
  have hfilled := importsOf_isFilled package hcalls hbody
  have hpackage := importsOf_package (Session.after package calls).table body
  have hextension (symbol : Symbol) (hmem : symbol ∈ body.symbols)
      (hext : symbol.isExtension = true) :
      (⟨symbol.importPath, none⟩ ∈ (importsOf (Session.after package calls).table body).allImports ↔
        symbol.package ≠ (Session.after package calls).table.package) := by
    rw [← hpackage]
    refine hfilled.extension_imported_iff (hbody symbol hmem) ?_
    exact (mem_importsOf_extensions _).mpr (.inr ⟨symbol, hmem, hext, rfl⟩)
  constructor
  case package => exact hpackage
  case lines => exact mem_lines _
  case extensions => exact fun path => mem_importsOf_extensions _
  case spelled =>
    intro argument hmem symbol hsymbol hext
    rw [Argument.render_of_symbol? hsymbol, spelling_eq _ hext]
  case one_source =>
    intro symbol hmem hext
    exact hfilled.existsUnique_source (hbody symbol hmem) (importsOf_binds package calls hmem hext)
  case line_source =>
    intro symbol hmem hext
    obtain ⟨source, h, -⟩ :=
      hfilled.existsUnique_source (hbody symbol hmem) (importsOf_binds package calls hmem hext)
    exact ⟨source, h.hasLine⟩
  case doubled => exact fun symbol hmem _ h => h.sources (hbody symbol hmem)
  case nothing_else =>
    intro symbol hmem hext
    have hbinds := importsOf_binds package calls hmem hext
    refine ⟨fun entry hentry => hfilled.path_eq_of_name_eq_head hbinds hentry, fun name hname => ?_⟩
    exact head_ne_of_declared hfilled.names hbinds (importsOf_owner?_of_declared hname)
  case extension_spelled =>
    intro argument hmem symbol hsymbol hext
    rw [Argument.render_of_symbol? hsymbol, spelling_extension _ hext]
  case extension_imported => exact hextension
  case extension_hasLine_iff =>
    exact fun symbol hmem hext h => (hasLine_path_iff h).trans (hextension symbol hmem hext)
  case undeclared =>
    intro entry hentry hname
    exact hfilled.name_ne_of_declared hentry (importsOf_owner?_of_declared hname) rfl
  case one_path =>
    intro first hfirst second hsecond h
    exact hfilled.path_eq_of_name_eq hfirst hsecond h

theorem importsOf_linesTell
    (hcalls : ∀ next ∈ calls, ∀ symbol ∈ next.symbol?, symbol.IsPlain)
    (hbody : ∀ symbol ∈ body.symbols, symbol.IsPlain)
    (hblanks : ∀ entry ∈ (importsOf (Session.after package calls).table body).allImports,
      ' ' ∉ entry.path.toList) :
    LinesTell (Session.after package calls) body
      (importsOf (Session.after package calls).table body) := by
  have hfilled := importsOf_isFilled package hcalls hbody
  constructor
  case hasLine_iff => exact fun entry h => ImportTable.hasLine_iff hblanks h
  case one_source_iff =>
    intro symbol hmem hext h
    exact hfilled.existsUnique_line_source_iff (hbody symbol hmem) (importsOf_binds package calls hmem hext)
      hblanks h
  case nothing_else =>
    intro symbol hmem hext entry h hline hname
    rcases List.mem_append.mp ((ImportTable.hasLine_iff hblanks h).mp hline) with hentry | hentry
    · exact .inl (hfilled.path_eq_of_name_eq_head (importsOf_binds package calls hmem hext) hentry hname)
    · exact .inr hentry

end After

/-- The file of some members, written after any calls on its import table, binds every symbol of its
body. If no path of an import has a blank, its lines tell as much, but for doubled names. -/
theorem ofMembers_bound (package fileName indent : String) (calls : List Call)
    (members : List CodeBlock)
    (hcalls : ∀ next ∈ calls, ∀ symbol ∈ next.symbol?, symbol.IsPlain)
    (hbody : ∀ symbol ∈ (CodeBlock.joinMembers members).symbols, symbol.IsPlain) :
    let taken := Session.after package calls
    let body := CodeBlock.joinMembers members
    let imports := importsOf taken.table body
    (ofMembers taken.table fileName indent members).IsWritten imports indent body ∧
      BindsSymbols taken body imports ∧
        ((∀ entry ∈ imports.allImports, ' ' ∉ entry.path.toList) →
          LinesTell taken body imports) := by
  intro taken body imports
  refine ⟨ofMembers_isWritten taken.table fileName indent members, ?_, fun hblanks => ?_⟩
  · exact importsOf_bindsSymbols package hcalls hbody
  · exact importsOf_linesTell hcalls hbody hblanks

theorem ofMembers_bound_list :
    let taken := Session.after "icons"
      [.declare "Folder", .adopt (.topLevel "icons" "List"),
        .assignAlias (.topLevel "icons.a" "Folder") authorMarker]
    let body : CodeBlock :=
      [.statement (.typeName (.topLevel "icons" "List") ++
        .typeName (.topLevel "kotlin.collections" "List") ++
        .typeName (.topLevel "icons.a" "Folder") ++ .member (.extension "unit" "dp"))]
    let imports := importsOf taken.table body
    (ofMembers taken.table "Folder" "  " [body]).IsWritten imports "  " body ∧
      BindsSymbols taken body imports ∧ LinesTell taken body imports ∧
        imports.aliases =
          [("kotlin.collections.List", "____List"), ("icons.a.Folder", "___Folder")] := by
  intro taken body imports
  obtain ⟨hwritten, hbinds, hlines⟩ := ofMembers_bound "icons" "Folder" "  "
    [.declare "Folder", .adopt (.topLevel "icons" "List"),
      .assignAlias (.topLevel "icons.a" "Folder") authorMarker] [body] (by decide) (by decide)
  exact ⟨hwritten, hbinds, hlines (by decide +kernel), by decide +kernel⟩

/-- Aliases without a marker, and a symbol whose path ends like an alias. -/
def unmarkedCalls : List Call :=
  [.assignAlias (.topLevel "a" "Foo") "", .adopt (.topLevel "b" "Bar as Bar"),
    .assignAlias (.topLevel "icons" "Qux") ""]

/-- Three classes, two extensions that share their simple names, and one of the package of the file
whose path ends like an alias. -/
def unmarkedBody : CodeBlock :=
  [.statement (.typeName (.topLevel "a" "Foo") ++ .member (.extension "a" "Foo") ++
    .typeName (.topLevel "b" "Bar") ++ .typeName (.topLevel "c" "Baz") ++
    .member (.extension "d" "Baz") ++ .member (.extension "icons" "Qux as Qux"))]

def unmarkedImports : ImportTable where
  package := "icons"
  owners := [("Baz", .imported "c.Baz"), ("Bar", .imported "b.Bar"),
    ("Bar as Bar", .imported "b.Bar as Bar")]
  aliases := [("icons.Qux", "Qux"), ("a.Foo", "Foo")]
  extensions := ["icons.Qux as Qux", "d.Baz", "a.Foo"]

def unmarkedLines : List String :=
  ["import a.Foo", "import a.Foo as Foo", "import b.Bar", "import b.Bar as Bar", "import c.Baz",
    "import d.Baz", "import icons.Qux as Qux"]

theorem importsOf_unmarked :
    importsOf (Session.after "icons" unmarkedCalls).table unmarkedBody = unmarkedImports := by
  decide +kernel

theorem lines_unmarkedImports : unmarkedImports.lines = unmarkedLines := by
  have hunsorted : (unmarkedImports.allImports.map Import.line).eraseDups =
      ["import c.Baz", "import b.Bar", "import b.Bar as Bar", "import icons.Qux as Qux",
        "import a.Foo as Foo", "import d.Baz", "import a.Foo"] := by
    decide +kernel
  rw [lines_eq, hunsorted]
  simp [unmarkedLines, List.mergeSort]

theorem hasLine_unmarked {entry : Import} (h : entry.line ∈ unmarkedLines) :
    unmarkedImports.HasLine entry := by
  rwa [HasLine, lines_unmarkedImports]

theorem unmarked_doubled : unmarkedImports.IsDoubled (.topLevel "a" "Foo") :=
  ⟨by decide +kernel, by decide, by decide⟩

theorem unmarked_blank :
    unmarkedImports.HasSource unmarkedImports.HasLine (.topLevel "b" "Bar") .renamed ∧
      unmarkedImports.HasSource unmarkedImports.HasLine (.topLevel "b" "Bar") .imported := by
  have hhead : unmarkedImports.head (.topLevel "b" "Bar") = "Bar" := by
    decide +kernel
  refine ⟨?_, hhead, by decide, hasLine_unmarked (by decide)⟩
  rw [HasSource, hhead]
  exact hasLine_unmarked (by decide)

theorem unmarked_sources_not_unique :
    let taken := Session.after "icons" unmarkedCalls
    let imports := importsOf taken.table unmarkedBody
    (∀ next ∈ unmarkedCalls, ∀ symbol ∈ next.symbol?, symbol.IsPlain) ∧
      (∀ symbol ∈ unmarkedBody.symbols, symbol.IsPlain) ∧
      (ofMembers taken.table "Foo" "  " [unmarkedBody]).contents =
        "package icons\n\nimport a.Foo\nimport a.Foo as Foo\nimport b.Bar\n" ++
          "import b.Bar as Bar\nimport c.Baz\nimport d.Baz\nimport icons.Qux as Qux\n\n" ++
            "FooFooBarBazBazQux as Qux\n" ∧
      (¬ ∃! source, imports.HasSource imports.HasLine (.topLevel "a" "Foo") source) ∧
      (¬ ∃! source, imports.HasSource imports.HasLine (.topLevel "b" "Bar") source) ∧
      (imports.HasLine ⟨"d.Baz", none⟩ ∧
        Import.name ⟨"d.Baz", none⟩ = imports.head (.topLevel "c" "Baz")) ∧
      imports.HasLine ⟨(Symbol.extension "icons" "Qux as Qux").importPath, none⟩ := by
  intro taken imports
  have himports : imports = unmarkedImports := importsOf_unmarked
  rw [himports]
  refine ⟨by decide, by decide, ?contents, ?doubled, ?blank,
    ⟨hasLine_unmarked (by decide), by decide +kernel⟩, hasLine_unmarked (by decide)⟩
  case contents =>
    change contentsOf imports "  " unmarkedBody = _
    rw [contentsOf_eq, himports, lines_unmarkedImports]
    decide +kernel
  case doubled =>
    intro h
    obtain ⟨hrenamed, himported⟩ := unmarked_doubled.sources (by decide)
    cases h.unique hrenamed himported
  case blank =>
    intro h
    cases h.unique unmarked_blank.1 unmarked_blank.2

end SourceFile
end IconForge
