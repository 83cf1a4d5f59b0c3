import DocPager.Unicode.CodePoints
import DocPager.Unicode.WhiteSpace
import DocPager.Unicode.LowerCase
import DocPager.Unicode.Alphanumeric
import DocPager.Unicode.Grapheme
import DocPager.Unicode.Width
import DocPager.Text.Trim
import DocPager.Text.Rows
import DocPager.Path
import DocPager.Folder
import DocPager.Page.Basic
import DocPager.Page.Load
import DocPager.Tracker
import DocPager.CopyTimer
import DocPager.Toml.Document
import DocPager.Settings.Basic
import DocPager.Settings.Read
import DocPager.Viewer.Basic
import DocPager.Viewer.Event
import DocPager.Highlight.Rows
import DocPager.Screen.Draw
import DocPager.CommandLine.Read
import DocPager.Outline.Page
import DocPager.Session.Start
import DocPager.Session.Display
import DocPager.Session.Typing
import DocPager.Terminal.Input
import DocPager.Terminal.Output
import DocPager.Main
import DocPager.Proofs.Unicode.WhiteSpace
import DocPager.Proofs.Text.Trim
import DocPager.Proofs.Anchor.Claim
import DocPager.Proofs.Anchor.Search
import DocPager.Proofs.Anchor.Id
import DocPager.Proofs.Anchor.Explicit
import DocPager.Proofs.Markdown.Lines
import DocPager.Proofs.Markdown.Body
import DocPager.Proofs.Markdown.Read
import DocPager.Proofs.Markdown.Outside
import DocPager.Proofs.Markdown.Spans
import DocPager.Proofs.Markdown.Extent
import DocPager.Proofs.Markdown.Headings
import DocPager.Proofs.Page.Sections
import DocPager.Proofs.Page.Snippets
import DocPager.Proofs.Page.Extent
import DocPager.Proofs.Page.Anchors
import DocPager.Proofs.Page.Render
import DocPager.Proofs.Tracker
import DocPager.Proofs.Viewer.Scroll
import DocPager.Proofs.Viewer.Run
import DocPager.Proofs.Viewer.Range
import DocPager.Proofs.Viewer.Input
import DocPager.Proofs.Viewer.Copied
import DocPager.Proofs.Viewer.Tracking
import DocPager.Proofs.Viewer.Position
import DocPager.Proofs.Viewer.Sound
import DocPager.Proofs.Viewer.Jump
import DocPager.Proofs.Viewer.Link
import DocPager.Proofs.Viewer.Selection
import DocPager.Proofs.Viewer.Copying
import DocPager.Proofs.Viewer.Advance
import DocPager.Proofs.Viewer.Retreat
import DocPager.Proofs.Tracker.Reference
import DocPager.Proofs.Tracker.Consistent
import DocPager.Proofs.Viewer.Deadline
import DocPager.Proofs.Viewer.Notice
import DocPager.Proofs.Session.Loop
import DocPager.Proofs.Viewer.Batch
import DocPager.Proofs.Machine.Word
import DocPager.Proofs.Machine.Bounded
import DocPager.Proofs.Machine.Viewer
import DocPager.Proofs.Machine.Frame
import DocPager.Proofs.Machine.Run
import DocPager.Proofs.Viewer.Paging
import DocPager.Proofs.Screen.Lines
import DocPager.Proofs.Viewer.Burst
import DocPager.Proofs.Highlight.Rows
import DocPager.Proofs.Screen.PageArea
import DocPager.Proofs.Screen.Links
import DocPager.Proofs.Highlight.Code
import DocPager.Proofs.Toml.Spelling
import DocPager.Proofs.Toml.Lines
import DocPager.Proofs.Settings.Read
