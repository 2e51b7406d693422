import SheetCompiler.Main
import SheetCompiler.Proofs.Compile.Accessors
import SheetCompiler.Proofs.Compile.Agreement
import SheetCompiler.Proofs.Compile.Constants
import SheetCompiler.Proofs.Compile.Contents
import SheetCompiler.Proofs.Compile.Padding
import SheetCompiler.Proofs.FileTree.Atomic
import SheetCompiler.Proofs.Manifest.Add
import SheetCompiler.Proofs.Manifest.Encoding
import SheetCompiler.Proofs.Manifest.Remove
import SheetCompiler.Proofs.Records.Command
import SheetCompiler.Proofs.Records.RoundTrip
import SheetCompiler.Proofs.Registry.Snapshot
import SheetCompiler.Proofs.Registry.ValidText
import SheetCompiler.Proofs.Script.Readback
import SheetCompiler.Proofs.Session.References
import SheetCompiler.Proofs.Session.Order
import SheetCompiler.Proofs.Session.Repeat
import SheetCompiler.Proofs.Session.Settled
import SheetCompiler.Proofs.Table.TypeCells
import SheetCompiler.Proofs.Template.Layout
import SheetCompiler.Workbook.Storage
import SheetCompiler.Registry.Question
