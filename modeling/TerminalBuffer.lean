import TerminalBuffer.Basic
import TerminalBuffer.Row
import TerminalBuffer.Arena
import TerminalBuffer.Buffer
import TerminalBuffer.Hyperlink
import TerminalBuffer.Cursor
import TerminalBuffer.Resize
import TerminalBuffer.Search
import TerminalBuffer.Reflow
import TerminalBuffer.Marks
import TerminalBuffer.Invariants
import TerminalBuffer.Links
import TerminalBuffer.DoubleByte
import TerminalBuffer.Estimate
import TerminalBuffer.Export.Runs
import TerminalBuffer.Export.Rtf
import TerminalBuffer.Export.Html
import TerminalBuffer.Export.HtmlRead
import TerminalBuffer.Columns
import TerminalBuffer.Host.WriteConsole
import TerminalBuffer.Host.WriteChars
import TerminalBuffer.Viewport
import TerminalBuffer.Glyphs
import TerminalBuffer.Selection
import TerminalBuffer.Words
import TerminalBuffer.Export.GetText
import TerminalBuffer.Scroll
import TerminalBuffer.ResizeWindow
import TerminalBuffer.Registry
import TerminalBuffer.Navigate
import TerminalBuffer.Host.WriteConsoleDbcs
import TerminalBuffer.Screen
import TerminalBuffer.HyperlinkLookup
import TerminalBuffer.Fill
import TerminalBuffer.Host.Layout
