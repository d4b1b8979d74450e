import IconForge.Symbol

/-!
# Style of the generated code

What a user may choose about the generated files besides the theme.
-/

namespace IconForge

structure CodeStyle where
  /-- One level of indentation. -/
  indent : String
  /-- The parameter of a builder function from which theme tokens are read. -/
  colorSchemeParam : String
  /-- What follows the name of an icon in the name of its builder function. -/
  builderSuffix : String
  /-- The type of a generated icon. -/
  iconType : Symbol
  /-- The type of the parameter that holds the theme tokens. -/
  colorsType : Symbol
  /-- The annotation of the getter that collects all icons. -/
  composable : Symbol

namespace CodeStyle

def standard : CodeStyle where
  indent := "    "
  colorSchemeParam := "colorScheme"
  builderSuffix := "Composable"
  iconType := .topLevel "org.jetbrains.jewel.icons" "IntellijIconData"
  colorsType := .topLevel "org.jetbrains.jewel" "IntelliJIconColors"
  composable := .topLevel "androidx.compose.runtime" "Composable"

end CodeStyle
end IconForge
