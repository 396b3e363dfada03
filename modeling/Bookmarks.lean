import Bookmarks.Text.Basic
import Bookmarks.Text.Ranges
import Bookmarks.Text.Packed
import Bookmarks.Text.Blank
import Bookmarks.Text.Case
import Bookmarks.Text.Printable
import Bookmarks.Text.Alnum
import Bookmarks.Text.Quoted
import Bookmarks.Text.Marks
import Bookmarks.Number.Binary64
import Bookmarks.Number.Shortest
import Bookmarks.Number.Spelling
import Bookmarks.Json.Value
import Bookmarks.Json.Reader
import Bookmarks.Json.Writer
import Bookmarks.Json.Dump
import Bookmarks.Json.Display
import Bookmarks.Fault
import Bookmarks.Json.Compare
import Bookmarks.Json.Access
import Bookmarks.Similarity.Matcher
import Bookmarks.Similarity.Score
import Bookmarks.Search
import Bookmarks.Text.Utf8
import Bookmarks.Digest.Md5
import Bookmarks.Url.Percent
import Bookmarks.Url.Address
import Bookmarks.Url.Parts
import Bookmarks.Url.Idna
import Bookmarks.Url.NameprepData
import Bookmarks.Url.Nameprep
import Bookmarks.Url.IdnaData
import Bookmarks.Url.IdnaCheck
import Bookmarks.Url.HostMapData
import Bookmarks.Url.HostMap
import Bookmarks.Url.Request
import Bookmarks.Markup.References
import Bookmarks.Markup.Unescape
import Bookmarks.Markup.StartTags
import Bookmarks.Codec.Tables
import Bookmarks.Codec.Basic
import Bookmarks.Codec.Single
import Bookmarks.Codec.Unicode
import Bookmarks.Codec.NameData
import Bookmarks.Codec.Names
import Bookmarks.Codec.Escape
import Bookmarks.Codec.CjkData
import Bookmarks.Codec.CjkSets
import Bookmarks.Codec.DoubleByte
import Bookmarks.Codec.Iso2022
import Bookmarks.Codec.Multibyte
import Bookmarks.Codec.Registry
import Bookmarks.Number.Arith
import Bookmarks.Charset.CharData
import Bookmarks.Charset.Chars
import Bookmarks.Charset.Frequencies
import Bookmarks.Charset.Mess
import Bookmarks.Charset.Coherence
import Bookmarks.Charset.Detect
import Bookmarks.Markup.Decode
import Bookmarks.Web.Status
import Bookmarks.Web.Page
import Bookmarks.Web.Fetch
import Bookmarks.Machine
import Bookmarks.Cover
import Bookmarks.ScriptFilter
import Bookmarks.Usage
import Bookmarks.Order.Sort
import Bookmarks.Workflow
import Bookmarks.Main
import Bookmarks.Proofs.Number.Rounding
import Bookmarks.Proofs.Number.Shortest
import Bookmarks.Proofs.Storage
import Bookmarks.Proofs.Counting
import Bookmarks.Proofs.Order.Faults
import Bookmarks.Proofs.Workflow
import Bookmarks.Proofs.Filters
import Bookmarks.Proofs.Ranking
import Bookmarks.Proofs.CoverCache
import Bookmarks.Proofs.Selection
import Bookmarks.Proofs.Session
import Bookmarks.Proofs.Similarity.Longest
import Bookmarks.Proofs.Similarity.Prefix
import Bookmarks.Proofs.Answer
import Bookmarks.Proofs.Order.Cells
import Bookmarks.Proofs.Order.Searching
import Bookmarks.Proofs.Order.Stable
import Bookmarks.Proofs.Order.LowMerge
import Bookmarks.Proofs.Order.HighMerge
import Bookmarks.Proofs.Order.Runs
import Bookmarks.Proofs.Order.Timsort
import Bookmarks.Proofs.Order.Lists
import Bookmarks.Proofs.Popularity
