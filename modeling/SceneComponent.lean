import SceneComponent.Conversion
import SceneComponent.Proofs.Binary64.Bits
import SceneComponent.Proofs.Inventory.Contents
import SceneComponent.Proofs.Component.Groups
import SceneComponent.Proofs.Component.References
import SceneComponent.Proofs.Text.Words
import SceneComponent.Text.LooseLayout
import SceneComponent.Proofs.Component.SetupText
import SceneComponent.Proofs.Component.ImportClosure
import SceneComponent.Proofs.Component.ImportLines
import SceneComponent.Proofs.Component.TemplateText
import SceneComponent.Proofs.Component.SourceLines
import SceneComponent.Proofs.Conversion.ReportedImports
import SceneComponent.Proofs.Decimal.Magnitude
import SceneComponent.Proofs.Value.Rounding
import SceneComponent.Proofs.Value.Rounded
import SceneComponent.Proofs.Scene.Readings
import SceneComponent.Proofs.Scene.Decoding
import SceneComponent.Proofs.Scene.Refusals
import SceneComponent.Proofs.Value.Vectors
import SceneComponent.Proofs.Inventory.Totality
import SceneComponent.Proofs.Conversion.LoadedModels
import SceneComponent.Proofs.Conversion.PlainDocuments
import SceneComponent.Proofs.Inventory.Elision
import SceneComponent.Proofs.Binary64.Nearest
import SceneComponent.Proofs.Decimal.ReadBack
import SceneComponent.Proofs.Decimal.TextReading
import SceneComponent.Proofs.Value.Literals
import SceneComponent.Proofs.Component.AttributeReading
import SceneComponent.Proofs.Inventory.Exactness
import SceneComponent.Proofs.Component.TemplateLines
import SceneComponent.Proofs.Component.TemplateReading
import SceneComponent.Proofs.Clips
import SceneComponent.Proofs.Component.PlayedClips
import SceneComponent.Proofs.Inventory.Identifiers
import SceneComponent.Proofs.Text.Marks
import SceneComponent.Proofs.Component.Markup
import SceneComponent.Proofs.HostPage
import SceneComponent.Proofs.Text.Sections
import SceneComponent.Proofs.Component.Sections
import SceneComponent.Proofs.Component.Attributes
import SceneComponent.Proofs.Inventory.LightDefaults
import SceneComponent.Proofs.Value.WholeNumbers
import SceneComponent.Proofs.Inventory.Placement
import SceneComponent.Proofs.Component.DialectLine
import SceneComponent.Proofs.Scene.ShadowFlags
import SceneComponent.Proofs.Inventory.ShadowFlags
import SceneComponent.Proofs.Component.ShadowMarks
import SceneComponent.Proofs.Conversion.Shadows
import SceneComponent.Proofs.Binary64.Signed
import SceneComponent.Proofs.Decimal.HalfUp
import SceneComponent.Proofs.Decimal.SignedText
import SceneComponent.Proofs.Decimal.CoarsestGrid
import SceneComponent.Proofs.Value.HalfUp
import SceneComponent.Proofs.Inventory.SettledNumbers
import SceneComponent.Proofs.Value.LiteralWords
import SceneComponent.Proofs.Value.NestedLiterals
import SceneComponent.Proofs.Component.AttributeScan
import SceneComponent.Proofs.Text.ScriptReading
import SceneComponent.Proofs.Binary64.Arithmetic
import SceneComponent.Proofs.Decimal.Hexadecimal
import SceneComponent.Proofs.Color.Texts
import SceneComponent.Proofs.Color.Bytes
import SceneComponent.Proofs.Color.RoundTrips
import SceneComponent.Proofs.Text.Pieces
import SceneComponent.Proofs.ModelPaths
import SceneComponent.Proofs.SettledNames
import SceneComponent.Proofs.ComponentNames
import SceneComponent.Proofs.AcceptedIdentifiers
import SceneComponent.Proofs.Scene.Places
import SceneComponent.Proofs.Text.Embedding
import SceneComponent.Proofs.Text.Removal
import SceneComponent.Proofs.Value.Dictionaries
import SceneComponent.Proofs.Inventory.GeometryArguments
import SceneComponent.Proofs.Inventory.Diagnostics
import SceneComponent.Proofs.Conversion.Diagnostics
import SceneComponent.Proofs.OptionPayloads
