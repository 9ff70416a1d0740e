/-!
# Packaged templates

The templates of the seven files of a stack, line by line.
-/

namespace Scaffold.Bundle.Packaged

/-- Lines with their line ends. -/
def unlines (lines : List String) : String := String.join (lines.map fun line => line ++ "\n")

def dto : String := unlines [
  "package dto",
  "",
  "import (",
  "\t\"time\"",
  "",
  "\t\"\x7b\x7b module_path \x7d\x7d/internal/applications/\x7b\x7b domain \x7d\x7d/repository\"",
  ")",
  "",
  "type Create\x7b\x7b struct_name \x7d\x7dRequest struct \x7b",
  "\t// TODO: Add your fields here",
  "\t// Name        string  `json:\"name\" validate:\"required,max=255\"`",
  "\t// Description string  `json:\"description\" validate:\"omitempty\"`",
  "\x7d",
  "\x7b% if has_crud %\x7d",
  "",
  "type Update\x7b\x7b struct_name \x7d\x7dRequest struct \x7b",
  "\tID int64 `param:\"id\" validate:\"required,gt=0\"`",
  "\t// TODO: Add your fields here",
  "\x7d",
  "",
  "type List\x7b\x7b struct_name \x7d\x7dRequest struct \x7b",
  "\tPage  int `query:\"page\" validate:\"omitempty,gte=1\"`",
  "\tLimit int `query:\"limit\" validate:\"omitempty,gte=1,lte=100\"`",
  "\x7d",
  "\x7b% endif %\x7d",
  "",
  "type \x7b\x7b struct_name \x7d\x7dResponse struct \x7b",
  "\tID        int64     `json:\"id\"`",
  "\tCreatedAt time.Time `json:\"created_at\"`",
  "\tUpdatedAt time.Time `json:\"updated_at\"`",
  "\t// TODO: Add your fields here",
  "\x7d",
  "",
  "func \x7b\x7b struct_name \x7d\x7dResponseFromModel(m *repository.\x7b\x7b struct_name \x7d\x7dModel) *\x7b\x7b struct_name \x7d\x7dResponse \x7b",
  "\tif m == nil \x7b",
  "\t\treturn nil",
  "\t\x7d",
  "\treturn &\x7b\x7b struct_name \x7d\x7dResponse\x7b",
  "\t\tID:        m.ID,",
  "\t\tCreatedAt: m.CreatedAt,",
  "\t\tUpdatedAt: m.UpdatedAt.Time,",
  "\t\t// TODO: Map your fields",
  "\t\x7d",
  "\x7d",
  "\x7b% if has_crud %\x7d",
  "",
  "func \x7b\x7b struct_name \x7d\x7dResponsesFromModels(models []\x7b\x7b struct_name \x7d\x7dModel) []*\x7b\x7b struct_name \x7d\x7dResponse \x7b",
  "\tresponses := make([]*\x7b\x7b struct_name \x7d\x7dResponse, 0, len(models))",
  "\tfor i := range models \x7b",
  "\t\tresponses = append(responses, \x7b\x7b struct_name \x7d\x7dResponseFromModel(&models[i]))",
  "\t\x7d",
  "\treturn responses",
  "\x7d",
  "",
  "type \x7b\x7b struct_name \x7d\x7dModel = repository.\x7b\x7b struct_name \x7d\x7dModel",
  "\x7b% endif %\x7d"]

def validator : String := unlines [
  "package validators",
  "",
  "import (",
  "\tappValidator \"\x7b\x7b module_path \x7d\x7d/pkg/validator\"",
  "",
  "\t\"github.com/go-playground/validator/v10\"",
  ")",
  "",
  "// Register\x7b\x7b struct_name \x7d\x7dValidators registers \x7b\x7b lower_name \x7d\x7d-specific validation rules",
  "func Register\x7b\x7b struct_name \x7d\x7dValidators(av *appValidator.AppValidator) error \x7b",
  "\tv := av.GetValidator()",
  "",
  "\tif err := v.RegisterValidation(\"\x7b\x7b table_name \x7d\x7d_name\", validate\x7b\x7b struct_name \x7d\x7dName); err != nil \x7b",
  "\t\treturn err",
  "\t\x7d",
  "",
  "\treturn nil",
  "\x7d",
  "",
  "// validate\x7b\x7b struct_name \x7d\x7dName is a placeholder rule for \x7b\x7b struct_name \x7d\x7d names",
  "func validate\x7b\x7b struct_name \x7d\x7dName(fl validator.FieldLevel) bool \x7b",
  "\t// TODO: Implement validation logic",
  "\treturn fl.Field().String() != \"\"",
  "\x7d"]

def repository : String := unlines [
  "package repository",
  "",
  "import (",
  "\t\"context\"",
  "",
  "\t\"github.com/uptrace/bun\"",
  "",
  "\t\"\x7b\x7b module_path \x7d\x7d/pkg/db/model\"",
  "\tdbRepository \"\x7b\x7b module_path \x7d\x7d/pkg/db/repository\"",
  ")",
  "",
  "type \x7b\x7b struct_name \x7d\x7dModel struct \x7b",
  "\tmodel.CoreModel",
  "\tbun.BaseModel `bun:\"table:\x7b\x7b table_name \x7d\x7d,alias:\x7b\x7b lower_name \x7d\x7d\"`",
  "",
  "\t// TODO: Add your fields here",
  "\t// Name        string    `bun:\"name,notnull\"`",
  "\t// Description string    `bun:\"description\"`",
  "\x7d",
  "",
  "type \x7b\x7b struct_name \x7d\x7dRepository interface \x7b",
  "\x7b% if has_crud %\x7d",
  "\tFindByID(ctx context.Context, id int64) (*\x7b\x7b struct_name \x7d\x7dModel, error)",
  "\tFindAll(ctx context.Context, offset, limit int) ([]\x7b\x7b struct_name \x7d\x7dModel, int, error)",
  "\tCreate(ctx context.Context, m *\x7b\x7b struct_name \x7d\x7dModel) error",
  "\tUpdate(ctx context.Context, m *\x7b\x7b struct_name \x7d\x7dModel) error",
  "\tDelete(ctx context.Context, id int64) error",
  "\x7b% else %\x7d",
  "\tGet(ctx context.Context) error",
  "\x7b% endif %\x7d",
  "\x7d",
  "",
  "type RepositoryImpl struct \x7b",
  "\t*dbRepository.BaseRepository[\x7b\x7b struct_name \x7d\x7dModel]",
  "\tdb *bun.DB",
  "\x7d",
  "",
  "func New\x7b\x7b struct_name \x7d\x7dRepository(db *bun.DB) *RepositoryImpl \x7b",
  "\tbase := dbRepository.NewRepository[\x7b\x7b struct_name \x7d\x7dModel](db, &\x7b\x7b struct_name \x7d\x7dModel\x7b\x7d)",
  "\treturn &RepositoryImpl\x7bBaseRepository: base, db: db\x7d",
  "\x7d",
  "\x7b% if has_crud %\x7d",
  "",
  "func (r *RepositoryImpl) FindByID(ctx context.Context, id int64) (*\x7b\x7b struct_name \x7d\x7dModel, error) \x7b",
  "\t\x7b\x7b var_name \x7d\x7d := new(\x7b\x7b struct_name \x7d\x7dModel)",
  "\terr := r.db.NewSelect().Model(\x7b\x7b var_name \x7d\x7d).Where(\"id = ?\", id).Scan(ctx)",
  "\tif err != nil \x7b",
  "\t\treturn nil, err",
  "\t\x7d",
  "\treturn \x7b\x7b var_name \x7d\x7d, nil",
  "\x7d",
  "",
  "func (r *RepositoryImpl) FindAll(ctx context.Context, offset, limit int) ([]\x7b\x7b struct_name \x7d\x7dModel, int, error) \x7b",
  "\tvar items []\x7b\x7b struct_name \x7d\x7dModel",
  "\ttotal, err := r.db.NewSelect().Model(&items).Offset(offset).Limit(limit).Order(\"id DESC\").ScanAndCount(ctx)",
  "\tif err != nil \x7b",
  "\t\treturn nil, 0, err",
  "\t\x7d",
  "\treturn items, total, nil",
  "\x7d",
  "",
  "func (r *RepositoryImpl) Create(ctx context.Context, m *\x7b\x7b struct_name \x7d\x7dModel) error \x7b",
  "\t_, err := r.db.NewInsert().Model(m).Exec(ctx)",
  "\treturn err",
  "\x7d",
  "",
  "func (r *RepositoryImpl) Update(ctx context.Context, m *\x7b\x7b struct_name \x7d\x7dModel) error \x7b",
  "\t_, err := r.db.NewUpdate().Model(m).WherePK().Exec(ctx)",
  "\treturn err",
  "\x7d",
  "",
  "func (r *RepositoryImpl) Delete(ctx context.Context, id int64) error \x7b",
  "\t_, err := r.db.NewDelete().Model((*\x7b\x7b struct_name \x7d\x7dModel)(nil)).Where(\"id = ?\", id).Exec(ctx)",
  "\treturn err",
  "\x7d",
  "\x7b% else %\x7d",
  "",
  "func (r *RepositoryImpl) Get(ctx context.Context) error \x7b",
  "\t// TODO: Implement database logic",
  "\treturn nil",
  "\x7d",
  "\x7b% endif %\x7d"]

def service : String := unlines [
  "package service",
  "",
  "import (",
  "\t\"context\"",
  "",
  "\t\"\x7b\x7b module_path \x7d\x7d/internal/applications/\x7b\x7b domain \x7d\x7d/dto\"",
  "\t\"\x7b\x7b module_path \x7d\x7d/internal/applications/\x7b\x7b domain \x7d\x7d/repository\"",
  ")",
  "",
  "type \x7b\x7b struct_name \x7d\x7dService interface \x7b",
  "\x7b% if has_crud %\x7d",
  "\tGetByID(ctx context.Context, id int64) (*dto.\x7b\x7b struct_name \x7d\x7dResponse, error)",
  "\tList(ctx context.Context, req dto.List\x7b\x7b struct_name \x7d\x7dRequest) ([]*dto.\x7b\x7b struct_name \x7d\x7dResponse, int, error)",
  "\tCreate(ctx context.Context, req dto.Create\x7b\x7b struct_name \x7d\x7dRequest) (*dto.\x7b\x7b struct_name \x7d\x7dResponse, error)",
  "\tUpdate(ctx context.Context, req dto.Update\x7b\x7b struct_name \x7d\x7dRequest) (*dto.\x7b\x7b struct_name \x7d\x7dResponse, error)",
  "\tDelete(ctx context.Context, id int64) error",
  "\x7b% else %\x7d",
  "\tHandle(ctx context.Context, req dto.Create\x7b\x7b struct_name \x7d\x7dRequest) (*dto.\x7b\x7b struct_name \x7d\x7dResponse, error)",
  "\x7b% endif %\x7d",
  "\x7d",
  "",
  "type ServiceImpl struct \x7b",
  "\trepo repository.\x7b\x7b struct_name \x7d\x7dRepository",
  "\x7d",
  "",
  "func New\x7b\x7b struct_name \x7d\x7dService(repo repository.\x7b\x7b struct_name \x7d\x7dRepository) *ServiceImpl \x7b",
  "\treturn &ServiceImpl\x7brepo: repo\x7d",
  "\x7d",
  "\x7b% if has_crud %\x7d",
  "",
  "func (s *ServiceImpl) GetByID(ctx context.Context, id int64) (*dto.\x7b\x7b struct_name \x7d\x7dResponse, error) \x7b",
  "\t\x7b\x7b var_name \x7d\x7d, err := s.repo.FindByID(ctx, id)",
  "\tif err != nil \x7b",
  "\t\treturn nil, err",
  "\t\x7d",
  "\treturn dto.\x7b\x7b struct_name \x7d\x7dResponseFromModel(\x7b\x7b var_name \x7d\x7d), nil",
  "\x7d",
  "",
  "func (s *ServiceImpl) List(ctx context.Context, req dto.List\x7b\x7b struct_name \x7d\x7dRequest) ([]*dto.\x7b\x7b struct_name \x7d\x7dResponse, int, error) \x7b",
  "\tpage, limit := req.Page, req.Limit",
  "\tif page < 1 \x7b",
  "\t\tpage = 1",
  "\t\x7d",
  "\tif limit < 1 \x7b",
  "\t\tlimit = 10",
  "\t\x7d",
  "\titems, total, err := s.repo.FindAll(ctx, (page-1)*limit, limit)",
  "\tif err != nil \x7b",
  "\t\treturn nil, 0, err",
  "\t\x7d",
  "\treturn dto.\x7b\x7b struct_name \x7d\x7dResponsesFromModels(items), total, nil",
  "\x7d",
  "",
  "func (s *ServiceImpl) Create(ctx context.Context, req dto.Create\x7b\x7b struct_name \x7d\x7dRequest) (*dto.\x7b\x7b struct_name \x7d\x7dResponse, error) \x7b",
  "\t\x7b\x7b var_name \x7d\x7d := &repository.\x7b\x7b struct_name \x7d\x7dModel\x7b",
  "\t\t// TODO: Map request fields",
  "\t\x7d",
  "\tif err := s.repo.Create(ctx, \x7b\x7b var_name \x7d\x7d); err != nil \x7b",
  "\t\treturn nil, err",
  "\t\x7d",
  "\treturn dto.\x7b\x7b struct_name \x7d\x7dResponseFromModel(\x7b\x7b var_name \x7d\x7d), nil",
  "\x7d",
  "",
  "func (s *ServiceImpl) Update(ctx context.Context, req dto.Update\x7b\x7b struct_name \x7d\x7dRequest) (*dto.\x7b\x7b struct_name \x7d\x7dResponse, error) \x7b",
  "\t\x7b\x7b var_name \x7d\x7d, err := s.repo.FindByID(ctx, req.ID)",
  "\tif err != nil \x7b",
  "\t\treturn nil, err",
  "\t\x7d",
  "\t// TODO: Apply request fields",
  "\tif err := s.repo.Update(ctx, \x7b\x7b var_name \x7d\x7d); err != nil \x7b",
  "\t\treturn nil, err",
  "\t\x7d",
  "\treturn dto.\x7b\x7b struct_name \x7d\x7dResponseFromModel(\x7b\x7b var_name \x7d\x7d), nil",
  "\x7d",
  "",
  "func (s *ServiceImpl) Delete(ctx context.Context, id int64) error \x7b",
  "\treturn s.repo.Delete(ctx, id)",
  "\x7d",
  "\x7b% else %\x7d",
  "",
  "func (s *ServiceImpl) Handle(ctx context.Context, req dto.Create\x7b\x7b struct_name \x7d\x7dRequest) (*dto.\x7b\x7b struct_name \x7d\x7dResponse, error) \x7b",
  "\t// TODO: Implement business logic",
  "\treturn &dto.\x7b\x7b struct_name \x7d\x7dResponse\x7b\x7d, nil",
  "\x7d",
  "\x7b% endif %\x7d"]

def controller : String := unlines [
  "package controller",
  "",
  "import (",
  "\t\"net/http\"",
  "\x7b% if has_crud %\x7d",
  "\t\"strconv\"",
  "\x7b% endif %\x7d",
  "",
  "\t\"github.com/labstack/echo/v4\"",
  "",
  "\t\"\x7b\x7b module_path \x7d\x7d/internal/applications/\x7b\x7b domain \x7d\x7d/dto\"",
  "\t\"\x7b\x7b module_path \x7d\x7d/internal/applications/\x7b\x7b domain \x7d\x7d/service\"",
  "\t\"\x7b\x7b module_path \x7d\x7d/pkg/utils/response\"",
  ")",
  "",
  "var Domain = \"\x7b\x7b domain \x7d\x7d\"",
  "",
  "type \x7b\x7b struct_name \x7d\x7dController struct \x7b",
  "\tservice service.\x7b\x7b struct_name \x7d\x7dService",
  "\x7d",
  "",
  "func New\x7b\x7b struct_name \x7d\x7dController(service service.\x7b\x7b struct_name \x7d\x7dService) *\x7b\x7b struct_name \x7d\x7dController \x7b",
  "\treturn &\x7b\x7b struct_name \x7d\x7dController\x7bservice: service\x7d",
  "\x7d",
  "",
  "// RegisterRoutes registers \x7b\x7b lower_name \x7d\x7d routes",
  "func (c *\x7b\x7b struct_name \x7d\x7dController) RegisterRoutes(serviceName string, e *echo.Echo) \x7b",
  "\tgroup := e.Group(\"/\" + serviceName + \"/api/\" + Domain + \"/\x7b\x7b table_name \x7d\x7d\")",
  "\x7b% if has_crud %\x7d",
  "\tgroup.GET(\"\", c.List)",
  "\tgroup.GET(\"/:id\", c.GetByID)",
  "\tgroup.POST(\"\", c.Create)",
  "\tgroup.PUT(\"/:id\", c.Update)",
  "\tgroup.DELETE(\"/:id\", c.Delete)",
  "\x7b% else %\x7d",
  "\tgroup.POST(\"\", c.Handle)",
  "\x7b% endif %\x7d",
  "\x7d",
  "\x7b% if has_crud %\x7d",
  "",
  "func (c *\x7b\x7b struct_name \x7d\x7dController) List(eCtx echo.Context) error \x7b",
  "\tvar req dto.List\x7b\x7b struct_name \x7d\x7dRequest",
  "\tif err := eCtx.Bind(&req); err != nil \x7b",
  "\t\treturn response.Error(eCtx, http.StatusBadRequest, err)",
  "\t\x7d",
  "\titems, _, err := c.service.List(eCtx.Request().Context(), req)",
  "\tif err != nil \x7b",
  "\t\treturn response.Error(eCtx, http.StatusInternalServerError, err)",
  "\t\x7d",
  "\treturn response.Success(eCtx, items)",
  "\x7d",
  "",
  "func (c *\x7b\x7b struct_name \x7d\x7dController) GetByID(eCtx echo.Context) error \x7b",
  "\tid, err := strconv.ParseInt(eCtx.Param(\"id\"), 10, 64)",
  "\tif err != nil \x7b",
  "\t\treturn response.Error(eCtx, http.StatusBadRequest, err)",
  "\t\x7d",
  "\t\x7b\x7b var_name \x7d\x7d, err := c.service.GetByID(eCtx.Request().Context(), id)",
  "\tif err != nil \x7b",
  "\t\treturn response.Error(eCtx, http.StatusNotFound, err)",
  "\t\x7d",
  "\treturn response.Success(eCtx, \x7b\x7b var_name \x7d\x7d)",
  "\x7d",
  "",
  "func (c *\x7b\x7b struct_name \x7d\x7dController) Create(eCtx echo.Context) error \x7b",
  "\tvar req dto.Create\x7b\x7b struct_name \x7d\x7dRequest",
  "\tif err := eCtx.Bind(&req); err != nil \x7b",
  "\t\treturn response.Error(eCtx, http.StatusBadRequest, err)",
  "\t\x7d",
  "\t\x7b\x7b var_name \x7d\x7d, err := c.service.Create(eCtx.Request().Context(), req)",
  "\tif err != nil \x7b",
  "\t\treturn response.Error(eCtx, http.StatusInternalServerError, err)",
  "\t\x7d",
  "\treturn response.Success(eCtx, \x7b\x7b var_name \x7d\x7d)",
  "\x7d",
  "",
  "func (c *\x7b\x7b struct_name \x7d\x7dController) Update(eCtx echo.Context) error \x7b",
  "\tvar req dto.Update\x7b\x7b struct_name \x7d\x7dRequest",
  "\tif err := eCtx.Bind(&req); err != nil \x7b",
  "\t\treturn response.Error(eCtx, http.StatusBadRequest, err)",
  "\t\x7d",
  "\t\x7b\x7b var_name \x7d\x7d, err := c.service.Update(eCtx.Request().Context(), req)",
  "\tif err != nil \x7b",
  "\t\treturn response.Error(eCtx, http.StatusInternalServerError, err)",
  "\t\x7d",
  "\treturn response.Success(eCtx, \x7b\x7b var_name \x7d\x7d)",
  "\x7d",
  "",
  "func (c *\x7b\x7b struct_name \x7d\x7dController) Delete(eCtx echo.Context) error \x7b",
  "\tid, err := strconv.ParseInt(eCtx.Param(\"id\"), 10, 64)",
  "\tif err != nil \x7b",
  "\t\treturn response.Error(eCtx, http.StatusBadRequest, err)",
  "\t\x7d",
  "\tif err := c.service.Delete(eCtx.Request().Context(), id); err != nil \x7b",
  "\t\treturn response.Error(eCtx, http.StatusInternalServerError, err)",
  "\t\x7d",
  "\treturn eCtx.NoContent(http.StatusNoContent)",
  "\x7d",
  "\x7b% else %\x7d",
  "",
  "func (c *\x7b\x7b struct_name \x7d\x7dController) Handle(eCtx echo.Context) error \x7b",
  "\tvar req dto.Create\x7b\x7b struct_name \x7d\x7dRequest",
  "\tif err := eCtx.Bind(&req); err != nil \x7b",
  "\t\treturn response.Error(eCtx, http.StatusBadRequest, err)",
  "\t\x7d",
  "\tresult, err := c.service.Handle(eCtx.Request().Context(), req)",
  "\tif err != nil \x7b",
  "\t\treturn response.Error(eCtx, http.StatusInternalServerError, err)",
  "\t\x7d",
  "\treturn response.Success(eCtx, result)",
  "\x7d",
  "\x7b% endif %\x7d"]

def providers : String := unlines [
  "package \x7b\x7b package_name \x7d\x7d",
  "",
  "import (",
  "\t\"github.com/samber/do/v2\"",
  "\t\"github.com/uptrace/bun\"",
  "",
  "\t\x7b\x7b var_name \x7d\x7dController \"\x7b\x7b module_path \x7d\x7d/internal/applications/\x7b\x7b domain \x7d\x7d/controller\"",
  "\t\x7b\x7b var_name \x7d\x7dRepo \"\x7b\x7b module_path \x7d\x7d/internal/applications/\x7b\x7b domain \x7d\x7d/repository\"",
  "\t\x7b\x7b var_name \x7d\x7dService \"\x7b\x7b module_path \x7d\x7d/internal/applications/\x7b\x7b domain \x7d\x7d/service\"",
  ")",
  "",
  "// RegisterProviders registers all \x7b\x7b domain \x7d\x7d domain dependencies",
  "func RegisterProviders(injector do.Injector) \x7b",
  "\tdo.Provide(injector, Provide\x7b\x7b struct_name \x7d\x7dRepository)",
  "\tdo.Provide(injector, Provide\x7b\x7b struct_name \x7d\x7dService)",
  "\tdo.Provide(injector, Provide\x7b\x7b struct_name \x7d\x7dController)",
  "\x7d",
  "",
  "func Provide\x7b\x7b struct_name \x7d\x7dRepository(i do.Injector) (*\x7b\x7b var_name \x7d\x7dRepo.RepositoryImpl, error) \x7b",
  "\tdb := do.MustInvoke[*bun.DB](i)",
  "\treturn \x7b\x7b var_name \x7d\x7dRepo.New\x7b\x7b struct_name \x7d\x7dRepository(db), nil",
  "\x7d",
  "",
  "func Provide\x7b\x7b struct_name \x7d\x7dService(i do.Injector) (*\x7b\x7b var_name \x7d\x7dService.ServiceImpl, error) \x7b",
  "\trepo := do.MustInvoke[*\x7b\x7b var_name \x7d\x7dRepo.RepositoryImpl](i)",
  "\treturn \x7b\x7b var_name \x7d\x7dService.New\x7b\x7b struct_name \x7d\x7dService(repo), nil",
  "\x7d",
  "",
  "func Provide\x7b\x7b struct_name \x7d\x7dController(i do.Injector) (*\x7b\x7b var_name \x7d\x7dController.\x7b\x7b struct_name \x7d\x7dController, error) \x7b",
  "\tsvc := do.MustInvoke[*\x7b\x7b var_name \x7d\x7dService.ServiceImpl](i)",
  "\treturn \x7b\x7b var_name \x7d\x7dController.New\x7b\x7b struct_name \x7d\x7dController(svc), nil",
  "\x7d"]

def registry : String := unlines [
  "package \x7b\x7b package_name \x7d\x7d",
  "",
  "import (",
  "\t\"github.com/labstack/echo/v4\"",
  "\t\"github.com/samber/do/v2\"",
  "",
  "\t\"\x7b\x7b module_path \x7d\x7d/internal/applications/\x7b\x7b domain \x7d\x7d/controller\"",
  ")",
  "",
  "func Register(injector do.Injector, serviceName string, e *echo.Echo) \x7b",
  "\t// Register all \x7b\x7b domain \x7d\x7d domain providers",
  "\tRegisterProviders(injector)",
  "",
  "\t\x7b\x7b var_name \x7d\x7dController := do.MustInvoke[*controller.\x7b\x7b struct_name \x7d\x7dController](injector)",
  "",
  "\t// Register routes",
  "\t\x7b\x7b var_name \x7d\x7dController.RegisterRoutes(serviceName, e)",
  "\x7d"]

/-- All packaged templates by their resource names, in the order of the names. -/
def sources : List (String × String) :=
  [("controller.go.j2", controller), ("dto.go.j2", dto), ("providers.go.j2", providers),
    ("registry.go.j2", registry), ("repository.go.j2", repository), ("service.go.j2", service),
    ("validator.go.j2", validator)]

end Scaffold.Bundle.Packaged
