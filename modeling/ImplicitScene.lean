import ImplicitScene.Scalar
import ImplicitScene.Vector
import ImplicitScene.Decimal
import ImplicitScene.Text.Blank
import ImplicitScene.Text.Replace
import ImplicitScene.Text.Alphanumeric
import ImplicitScene.Ty
import ImplicitScene.TypeFault
import ImplicitScene.Value
import ImplicitScene.Context
import ImplicitScene.Expression.Basic
import ImplicitScene.Expression.Typing
import ImplicitScene.Expression.Glsl
import ImplicitScene.Expression.Evaluation
import ImplicitScene.Shape.Id
import ImplicitScene.Json.Basic
import ImplicitScene.Json.Number
import ImplicitScene.Json.Reader
import ImplicitScene.Shape.Kind
import ImplicitScene.Shape.Blend
import ImplicitScene.Shape.Cell
import ImplicitScene.Shape.Distance
import ImplicitScene.Shape.Arena
import ImplicitScene.Shape.Field
import ImplicitScene.Shape.Order
import ImplicitScene.Tracer.Sampling
import ImplicitScene.Scene.Error
import ImplicitScene.Scene.Slot
import ImplicitScene.Scene.Material
import ImplicitScene.Scene.Camera
import ImplicitScene.Scene.Basic
import ImplicitScene.Scene.Builder
import ImplicitScene.Scene.Workshop
import ImplicitScene.Scene.Probe
import ImplicitScene.Scene.Batch
import ImplicitScene.Shape.Glsl
import ImplicitScene.Json.Record
import ImplicitScene.Description.Formula
import ImplicitScene.Description.Basic
import ImplicitScene.Description.Reader
import ImplicitScene.Options
import ImplicitScene.Demo
import ImplicitScene.Program.Basic
import ImplicitScene.Program.Printer
import ImplicitScene.Program.Template
import ImplicitScene.Program.Helper
import ImplicitScene.Program.PathTracing
import ImplicitScene.Program.Assembly
import ImplicitScene.Tracer.March
import ImplicitScene.Tracer.Basic
import ImplicitScene.Image.Basic
import ImplicitScene.Decimal.Reader
import ImplicitScene.Image.Png
import ImplicitScene.Image.File
import ImplicitScene.Command.Arguments
import ImplicitScene.Command.Basic
import ImplicitScene.Command.Help
import ImplicitScene.Command.Folder
import ImplicitScene.Main
import ImplicitScene.Proofs.Soundness
import ImplicitScene.Proofs.Construction
import ImplicitScene.Proofs.Order
import ImplicitScene.Proofs.Probing
import ImplicitScene.Proofs.Lexing
import ImplicitScene.Proofs.ExpressionText
import ImplicitScene.Proofs.FunctionText
import ImplicitScene.Proofs.Replacing
import ImplicitScene.Proofs.MainFunction
import ImplicitScene.Proofs.Names
import ImplicitScene.Proofs.Scope
import ImplicitScene.Proofs.Frames
import ImplicitScene.Proofs.Mentions
import ImplicitScene.Proofs.Variables
import ImplicitScene.Proofs.Decimals
import ImplicitScene.Proofs.Brackets
import ImplicitScene.Proofs.SpelledOut
import ImplicitScene.Proofs.Unambiguous
import ImplicitScene.Proofs.ShapeText
import ImplicitScene.Proofs.ProgramText
import ImplicitScene.Proofs.Agreement
import ImplicitScene.Proofs.SceneText
import ImplicitScene.Proofs.Execution
import ImplicitScene.Proofs.Choice
import ImplicitScene.Proofs.Fields
import ImplicitScene.Proofs.Histories
import ImplicitScene.Proofs.Renaming
import ImplicitScene.Proofs.Sessions
import ImplicitScene.Proofs.Twins
import ImplicitScene.Proofs.Expansion
import ImplicitScene.Proofs.Pixels
import ImplicitScene.Proofs.Reading
import ImplicitScene.Proofs.Growth
import ImplicitScene.Proofs.Batches
import ImplicitScene.Proofs.FloatOrder
import ImplicitScene.Proofs.Nearest
import ImplicitScene.Proofs.Meaning
import ImplicitScene.Proofs.Signs
import ImplicitScene.Proofs.Snippets
import ImplicitScene.Proofs.Bounces
import ImplicitScene.Proofs.Unread
import ImplicitScene.Proofs.Outcomes
import ImplicitScene.Proofs.PostOrder
import ImplicitScene.Proofs.Faithfulness
import ImplicitScene.Proofs.Turns
import ImplicitScene.Proofs.Shorthands
import ImplicitScene.Proofs.Emission
import ImplicitScene.Proofs.Marching
import ImplicitScene.Proofs.Lanes
import ImplicitScene.Proofs.Templates
import ImplicitScene.Proofs.Printing
import ImplicitScene.Proofs.Blending
import ImplicitScene.Proofs.Folding
