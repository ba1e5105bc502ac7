import Skirmish.Entity.Codec
import Skirmish.Geometry.Codec
import Skirmish.Main
import Skirmish.Session.Basic
import Skirmish.Settings.Storage
import Skirmish.World.Founding
import Skirmish.Proofs.Geometry.Box
import Skirmish.Proofs.Geometry.Corners
import Skirmish.Proofs.Geometry.Points
import Skirmish.Proofs.Quadtree.Node
import Skirmish.Proofs.Quadtree.Shape
import Skirmish.Proofs.Quadtree.Filing
import Skirmish.Proofs.Quadtree.Insertion
import Skirmish.Proofs.Quadtree.Listing
import Skirmish.Proofs.Quadtree.Registry
import Skirmish.Proofs.Quadtree.Structure
import Skirmish.Proofs.Quadtree.Termination
import Skirmish.Proofs.Quadtree.Edge
import Skirmish.Proofs.Entity.Entry
import Skirmish.Proofs.Entity.Frames
import Skirmish.Proofs.Entity.Runs
import Skirmish.Proofs.Entity.Gait
import Skirmish.Proofs.Entity.Showing
import Skirmish.Proofs.Single.Packing
import Skirmish.Proofs.Single.Rounding
import Skirmish.Proofs.Single.Magnitude
import Skirmish.Proofs.Single.Nearest
import Skirmish.Proofs.Entity.Stalling
import Skirmish.Proofs.Map.Bounds
import Skirmish.Proofs.Map.Cells
import Skirmish.Proofs.Map.Clamping
import Skirmish.Proofs.Map.Store
import Skirmish.Proofs.Map.Positions
import Skirmish.Proofs.Map.Viewport
import Skirmish.Proofs.World.InStep
import Skirmish.Proofs.World.Runs
import Skirmish.Proofs.World.Selection
import Skirmish.Proofs.World.Culling
import Skirmish.Proofs.World.Founding
import Skirmish.Proofs.World.Frame
import Skirmish.Proofs.World.Ticking
import Skirmish.Proofs.World.Twins
import Skirmish.Proofs.World.Progress
import Skirmish.Proofs.World.Safety
import Skirmish.Proofs.Session.Driver
import Skirmish.Proofs.Session.Moves
import Skirmish.Proofs.Quadtree.Chain
import Skirmish.Proofs.Quadtree.Load
import Skirmish.Proofs.Quadtree.Canonical
import Skirmish.Proofs.Quadtree.History
import Skirmish.Proofs.Quadtree.Rebuilding
import Skirmish.Proofs.Quadtree.InPlace
import Skirmish.Proofs.World.Lasting
import Skirmish.Proofs.World.Lineage
import Skirmish.Proofs.World.Fate
import Skirmish.Proofs.World.Joining
import Skirmish.Proofs.World.Picking
import Skirmish.Proofs.World.Health
import Skirmish.Proofs.World.Showing
import Skirmish.Proofs.World.Stocks
import Skirmish.Proofs.Session.Deaths
import Skirmish.Proofs.Json.Numeral
import Skirmish.Proofs.Json.Layout
import Skirmish.Proofs.Json.Tree
import Skirmish.Proofs.Json.Reading
import Skirmish.Proofs.Settings.Loading
import Skirmish.Proofs.Settings.RoundTrip
import Skirmish.Proofs.Random.Dice
import Skirmish.Proofs.World.Town
import Skirmish.Proofs.World.Generation
import Skirmish.Proofs.World.Beginning
