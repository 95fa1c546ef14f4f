import LoadAtlas.Bucket.Register
import LoadAtlas.Config.Json
import LoadAtlas.Config.Toml
import LoadAtlas.Engine.Wait
import LoadAtlas.Atlas.Strict
import LoadAtlas.Report
import LoadAtlas.Proofs.Atlas.Strict
import LoadAtlas.Proofs.Atlas.Balance
import LoadAtlas.Proofs.Atlas.Canonical
import LoadAtlas.Proofs.Atlas.Hysteresis
import LoadAtlas.Proofs.Atlas.Traffic
import LoadAtlas.Proofs.Window.Drain
import LoadAtlas.Proofs.Window.Overlap
import LoadAtlas.Proofs.Window.Session
import LoadAtlas.Proofs.Engine.Chronicle
import LoadAtlas.Proofs.Engine.Worker
import LoadAtlas.Proofs.Config.Json
import LoadAtlas.Proofs.Toml.Line
import LoadAtlas.Proofs.Config.Toml
import LoadAtlas.Proofs.Atlas.Repair
import LoadAtlas.Proofs.Forest.Register
import LoadAtlas.Proofs.Forest.Subdivision
import LoadAtlas.Engine.Service
import LoadAtlas.Proofs.Engine.Closed
import LoadAtlas.Proofs.Engine.Service
import LoadAtlas.Proofs.Window.Attempt
import LoadAtlas.Proofs.Bucket.Shelf
import LoadAtlas.Proofs.Bucket.Near
import LoadAtlas.Proofs.Engine.Regular
import LoadAtlas.Proofs.Config.Setting
import LoadAtlas.Proofs.Window.Concord
import LoadAtlas.Proofs.Report
import LoadAtlas.Proofs.Bucket.Journal
import LoadAtlas.Proofs.Cell.Lineage
