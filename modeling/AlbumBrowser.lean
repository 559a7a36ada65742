import AlbumBrowser.Calendar.DayNumber
import AlbumBrowser.Main
import AlbumBrowser.Proofs.Album.Folders
import AlbumBrowser.Proofs.Album.Members
import AlbumBrowser.Proofs.Calendar.Clocks
import AlbumBrowser.Proofs.Calendar.Dates
import AlbumBrowser.Proofs.Calendar.Layouts
import AlbumBrowser.Proofs.Calendar.OffsetTimes
import AlbumBrowser.Proofs.CommandLine.Browse
import AlbumBrowser.Proofs.CommandLine.Filtering
import AlbumBrowser.Proofs.CommandLine.Unreadable
import AlbumBrowser.Proofs.Feed.Kinds
import AlbumBrowser.Proofs.Filter.Admission
import AlbumBrowser.Proofs.Filter.Keywords
import AlbumBrowser.Proofs.Json.Grammar
import AlbumBrowser.Proofs.Json.Numerals
import AlbumBrowser.Proofs.Json.Strings
import AlbumBrowser.Proofs.Json.Values
import AlbumBrowser.Proofs.Json.Written
import AlbumBrowser.Proofs.Label
import AlbumBrowser.Proofs.Terminal.Colours
import AlbumBrowser.Proofs.Text.Ascii
import AlbumBrowser.Proofs.Text.FullWidth
import AlbumBrowser.Proofs.Timestamp.Documented
import AlbumBrowser.Proofs.Timestamp.Keys
import AlbumBrowser.Proofs.Timestamp.OwnZone
import AlbumBrowser.Proofs.Timestamp.Readers
import AlbumBrowser.Proofs.Viewer.Halves
import AlbumBrowser.Proofs.Viewer.Loads
import AlbumBrowser.Proofs.Viewer.Lookup
import AlbumBrowser.Proofs.Viewer.Opened
import AlbumBrowser.Proofs.Viewer.Shown
import AlbumBrowser.Proofs.Viewer.Stock
import AlbumBrowser.Proofs.Viewer.Stops
import AlbumBrowser.Proofs.Viewer.Turning
import AlbumBrowser.Proofs.Web.Controls
import AlbumBrowser.Proofs.Web.Encoding
import AlbumBrowser.Proofs.Web.Escapes
import AlbumBrowser.Proofs.Web.Page
import AlbumBrowser.Proofs.Web.PostedBack
import AlbumBrowser.Proofs.Web.Queries
import AlbumBrowser.Proofs.Web.ReadBack
import AlbumBrowser.Proofs.Web.Refusals
import AlbumBrowser.Proofs.Web.Reloads
import AlbumBrowser.Proofs.Web.Service
import AlbumBrowser.Proofs.Web.Session
import AlbumBrowser.Proofs.Zone.Notation
import AlbumBrowser.Proofs.Zone.Words
import AlbumBrowser.Text.Utf8.RoundTrip
