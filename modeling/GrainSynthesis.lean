import GrainSynthesis.Raster.Painting
import GrainSynthesis.Raster.Steps
import GrainSynthesis.Grid.Steps
import GrainSynthesis.Detection
import GrainSynthesis.Frame
import GrainSynthesis.Proofs.Ideal
import GrainSynthesis.Proofs.Reach
import GrainSynthesis.Proofs.Keys
import GrainSynthesis.Proofs.Rows
import GrainSynthesis.Proofs.Planes
import GrainSynthesis.Proofs.Painting
import GrainSynthesis.Proofs.StripIdeal
import GrainSynthesis.Proofs.StripParts
import GrainSynthesis.Proofs.StripCuts
import GrainSynthesis.Proofs.LaneRegisters
import GrainSynthesis.Proofs.LaneWindows
import GrainSynthesis.Proofs.LaneScaling
import GrainSynthesis.Proofs.LumaLanes
import GrainSynthesis.Proofs.LaneKeys
import GrainSynthesis.Proofs.ChromaLanes
import GrainSynthesis.Proofs.WeightedMean
import GrainSynthesis.Proofs.CompoundRegisters
import GrainSynthesis.Proofs.CompoundLanes
import GrainSynthesis.Proofs.CompoundSamples
import GrainSynthesis.Proofs.SideBySide
import GrainSynthesis.Proofs.CompoundOutcome
import GrainSynthesis.Proofs.CompoundLaws
import GrainSynthesis.Proofs.StripSamples
import GrainSynthesis.Proofs.StripReach
import GrainSynthesis.Proofs.StripOutcome
import GrainSynthesis.Proofs.StripTiers
import GrainSynthesis.Proofs.StripInputs
import GrainSynthesis.Proofs.StripIsolation
import GrainSynthesis.Proofs.StripIndependence
import GrainSynthesis.Proofs.SilentNoise
import GrainSynthesis.Proofs.NoiseResponse
import GrainSynthesis.Proofs.KeyPaths
import GrainSynthesis.Proofs.DetectionHistory
import GrainSynthesis.Proofs.FeaturesInUse
import GrainSynthesis.Proofs.DetectionLog
import GrainSynthesis.Proofs.ChromaGeometry
import GrainSynthesis.Proofs.Interpolation
import GrainSynthesis.Proofs.GridHistory
import GrainSynthesis.Proofs.RasterHistory
import GrainSynthesis.Proofs.CodedParameters
import GrainSynthesis.Proofs.Words
import GrainSynthesis.Proofs.LevelWords
import GrainSynthesis.Proofs.RowWindows
import GrainSynthesis.Proofs.FixedPoint
