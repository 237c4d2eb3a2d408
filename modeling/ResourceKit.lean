import ResourceKit.Argument
import ResourceKit.Binary.Format
import ResourceKit.Binary.Parse
import ResourceKit.Binary.Shortest
import ResourceKit.Console.Prompt
import ResourceKit.Files.Build
import ResourceKit.Files.Read
import ResourceKit.Files.Tree
import ResourceKit.Integer.Kind
import ResourceKit.Items.Collect
import ResourceKit.Items.Element
import ResourceKit.Items.Join
import ResourceKit.Items.Matrix
import ResourceKit.Items.Search
import ResourceKit.Keyed
import ResourceKit.Lines.Cut
import ResourceKit.Lines.Reader
import ResourceKit.Properties.Escape
import ResourceKit.Properties.Line
import ResourceKit.Properties.Lines
import ResourceKit.Properties.Map
import ResourceKit.Properties.Read
import ResourceKit.Reading.Buffered
import ResourceKit.Reading.Failure
import ResourceKit.Reading.Source
import ResourceKit.Resource.Directory
import ResourceKit.Resource.Error
import ResourceKit.Resource.Memory
import ResourceKit.Resource.Properties
import ResourceKit.Resource.Store
import ResourceKit.Resource.Stream
import ResourceKit.Resource.TempFile
import ResourceKit.Text.Blank
import ResourceKit.Text.GraphemeExtend
import ResourceKit.Text.Printable
import ResourceKit.Text.Quoted
import ResourceKit.Text.Sniffing
import ResourceKit.Text.Utf16
import ResourceKit.Text.Utf8
import ResourceKit.Text.Windows1252
import ResourceKit.Workspace.Definition
import ResourceKit.Workspace.Rejection
import ResourceKit.Workspace.Session
import ResourceKit.Proofs.LineCutting
import ResourceKit.Proofs.LineReading
import ResourceKit.Proofs.Prompting
import ResourceKit.Proofs.ChainSearch
import ResourceKit.Proofs.MemoryTable
import ResourceKit.Proofs.DirectoryConfinement
import ResourceKit.Proofs.Utf8Encoding
import ResourceKit.Proofs.WrittenLines
import ResourceKit.Proofs.MatrixCopy
import ResourceKit.Proofs.SliceTotals
import ResourceKit.Proofs.PropertyLoading
import ResourceKit.Proofs.TempFileCopies
import ResourceKit.Proofs.SeparatorPlacement
import ResourceKit.Proofs.SearchByIdentity
