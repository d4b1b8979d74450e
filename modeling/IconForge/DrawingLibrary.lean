import IconForge.Symbol

/-!
# Symbols of the drawing library

The declarations that generated code refers to, whatever the icons are.
-/

namespace IconForge
namespace DrawingLibrary

def graphicsPackage : String := "androidx.compose.ui.graphics"

def vectorPackage : String := "androidx.compose.ui.graphics.vector"

def collectionsPackage : String := "kotlin.collections"

def imageVector : Symbol := .topLevel vectorPackage "ImageVector"

def imageVectorBuilder : Symbol := .nested vectorPackage "ImageVector" "Builder"

def path : Symbol := .extension vectorPackage "path"

def group : Symbol := .extension vectorPackage "group"

def solidColor : Symbol := .topLevel graphicsPackage "SolidColor"

def color : Symbol := .topLevel graphicsPackage "Color"

def linearGradient : Symbol := .nested graphicsPackage "Brush" "linearGradient"

def radialGradient : Symbol := .nested graphicsPackage "Brush" "radialGradient"

def offset : Symbol := .topLevel "androidx.compose.ui.geometry" "Offset"

def strokeCap (name : String) : Symbol := .nested graphicsPackage "StrokeCap" name

def strokeJoin (name : String) : Symbol := .nested graphicsPackage "StrokeJoin" name

def pathFillType (name : String) : Symbol := .nested graphicsPackage "PathFillType" name

def densityPixels : Symbol := .extension "androidx.compose.ui.unit" "dp"

def list : Symbol := .topLevel collectionsPackage "List"

def listOf : Symbol := .topLevel collectionsPackage "listOf"

end DrawingLibrary
end IconForge
