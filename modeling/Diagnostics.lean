import Diagnostics.Main
import Diagnostics.Report.Session
import Diagnostics.Report.Single
import Diagnostics.Proofs.Render.OffsetUnits
import Diagnostics.Proofs.Render.SubSource
import Diagnostics.Proofs.Render.Underline
import Diagnostics.Proofs.Render.Pruned
import Diagnostics.Proofs.Render.Total
import Diagnostics.Proofs.Render.Resolution
import Diagnostics.Proofs.Render.Leftover
import Diagnostics.Proofs.Render.HiddenLines
import Diagnostics.Proofs.Render.Rearranged
import Diagnostics.Proofs.Report.RoundTrip
import Diagnostics.Proofs.Report.History
import Diagnostics.Proofs.CommandLine.Uncolored
import Diagnostics.Proofs.CommandLine.Status
import Diagnostics.Proofs.Source.Terminated
import Diagnostics.Proofs.Source.LineRange
import Diagnostics.Proofs.Source.Rounding
import Diagnostics.Proofs.Config.Laws
import Diagnostics.Proofs.Render.DisplayMap
import Diagnostics.Proofs.Escape.Layers
import Diagnostics.Proofs.FileTree.Starts
import Diagnostics.Proofs.Render.Elision
import Diagnostics.Proofs.Render.Cells
import Diagnostics.Proofs.Render.GlyphSets
import Diagnostics.Proofs.CommandLine.LineDump
